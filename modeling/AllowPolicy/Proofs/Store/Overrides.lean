import AllowPolicy.Proofs.Entries
import AllowPolicy.Proofs.Store.Change
import Mathlib.Data.List.Induction

namespace AllowPolicy

namespace Overrides

variable {κ ν : Type} [DecidableEq κ]

theorem entries_set (table : Overrides κ ν) (key : κ) (value : ν) :
    (table.set key value).entries = putEntry table.entries key value := by
  have hhas : table.has key = table.entries.any (·.1 = key) := by
    rw [Bool.eq_iff_iff, has, get?, List.lookup_isSome_iff, any_key_eq_iff, List.mem_map]
    exact exists_congr fun entry => and_congr_right fun _ => beq_iff_eq.trans eq_comm
  rw [set, hhas, putEntry]
  split <;> rfl

theorem get?_set (table : Overrides κ ν) (key : κ) (value : ν) (other : κ) :
    (table.set key value).get? other = if other = key then some value else table.get? other := by
  rw [get?, entries_set, lookup_putEntry, get?]

theorem get?_remove (table : Overrides κ ν) (key other : κ) :
    (table.remove key).get? other = if other = key then none else table.get? other :=
  lookup_filter_ne key table.entries other

/-- The last decision for an application counts. -/
theorem get?_ofList (entries : List (κ × ν)) (key : κ) :
    (ofList entries).get? key = entries.reverse.lookup key := by
  induction entries using List.reverseRecOn with
  | nil => rfl
  | append_singleton entries entry ih =>
    rw [ofList, List.foldl_append, List.foldl_cons, List.foldl_nil, get?_set, List.reverse_append,
      List.reverse_singleton, List.singleton_append, lookup_cons_eq_ite, ← ih]
    rfl

end Overrides

namespace OverrideTable

/-- What a table decides for an application. Of several rows the last counts. -/
def allowed? (table : OverrideTable) (name : Option String) : Option Bool :=
  ((⟨table.rows.reverse⟩ : Overrides (Option String) Int).get? name).map (· ≠ 0)

theorem allowed?_set (table : OverrideTable) (name : String) (allowed : Int)
    (other : Option String) :
    (table.set (some name) allowed).allowed? other =
      if other = some name then some (decide (allowed ≠ 0)) else table.allowed? other := by
  unfold set allowed? Overrides.get?
  by_cases hhas : table.has name
  · rw [if_pos (by simpa using hhas), ← List.map_reverse, lookup_map_replace]
    obtain ⟨row, hrow, hname⟩ := List.any_eq_true.mp hhas
    by_cases hother : other = some name
    · obtain ⟨old, hold⟩ := Option.isSome_iff_exists.mp
        (isSome_lookup_of_mem (List.mem_reverse.mpr hrow))
      rw [of_decide_eq_true hname] at hold
      rw [if_pos hother, if_pos hother, hother, hold]
      rfl
    · simp [hother]
  · rw [if_neg (by simpa using hhas), List.reverse_append, List.reverse_singleton,
      List.singleton_append, lookup_cons_eq_ite]
    by_cases hother : other = some name <;> simp [hother]

theorem allowed?_remove (table : OverrideTable) (name : String) (other : Option String) :
    (table.remove name).allowed? other =
      if other = some name then none else table.allowed? other := by
  unfold remove allowed? Overrides.get?
  rw [← List.filter_reverse, lookup_filter_ne]
  by_cases hother : other = some name <;> simp [hother]

end OverrideTable

namespace Store

/-- The stored overrides, as long as they can be reached. -/
def overrideTable? (store : Store) : Option OverrideTable :=
  match store.isOpen, store.draft.overrides with
  | true, .present table => some table
  | _, _ => none

/-- The store with these overrides, saved together with the rest of the draft. -/
def saveOverrides (store : Store) (table : OverrideTable) : Store :=
  { store with
    draft := { store.draft with overrides := .present table }
    saved := { store.draft with overrides := .present table } }

theorem overrideTable?_eq_some_iff {store : Store} {table : OverrideTable} :
    store.overrideTable? = some table ↔
      store.isOpen = true ∧ store.draft.overrides = .present table := by
  unfold overrideTable?
  cases store.isOpen <;> cases store.draft.overrides <;> simp

theorem overrideTable?_saveOverrides {store : Store} {table : OverrideTable}
    (htable : store.overrideTable? = some table) (after : OverrideTable) :
    (store.saveOverrides after).overrideTable? = some after :=
  overrideTable?_eq_some_iff.mpr ⟨(overrideTable?_eq_some_iff.mp htable).1, rfl⟩

/-- A statement about overrides works on the table, or is refused if there is none. -/
theorem run_onOverrides {α : Type} (complaint : String)
    (work : OverrideTable → Outcome (α × OverrideTable)) (store : Store) :
    (∃ table, store.overrideTable? = some table ∧
        (execute (Database.onOverrides complaint work)).run.run store =
          match work table with
          | .ok (answer, after) =>
            (.ok answer, { store with draft := { store.draft with overrides := .present after } })
          | .error failure => (.error failure, store)) ∨
      store.overrideTable? = none ∧
        ∃ failure, (execute (Database.onOverrides complaint work)).run.run store =
          (.error failure, store) := by
  obtain ⟨saved, ⟨rules, overrides, versioned⟩, isOpen, volatile⟩ := store
  cases isOpen with
  | false => exact .inr ⟨rfl, _, run_execute_closed _ rfl⟩
  | true =>
    rw [run_execute _ rfl]
    cases overrides with
    | missing => exact .inr ⟨rfl, _, rfl⟩
    | foreign => exact .inr ⟨rfl, _, rfl⟩
    | present table =>
      refine .inl ⟨table, rfl, ?_⟩
      have hrun : (Database.onOverrides complaint work).run ⟨rules, .present table, versioned⟩ =
          (work table).bind fun result =>
            .ok (result.1, ⟨rules, .present result.2, versioned⟩) := by
        simp only [Database.onOverrides, StateT.run_bind, StateT.run_get, StateT.run_monadLift,
          StateT.run_modify, StateT.run_pure, Table.content, pure_bind, bind_assoc]
        change (work table).bind _ = _
        rcases work table with failure | result <;> rfl
      rw [hrun]
      rcases work table with failure | ⟨answer, after⟩ <;> rfl

/-- The decisions of a table as they are read. -/
def decisions (table : OverrideTable) : Overrides (Option String) Bool :=
  .ofList (table.rows.map fun (name, allowed) => (name, allowed ≠ 0))

theorem get?_decisions (table : OverrideTable) (name : Option String) :
    (decisions table).get? name = table.allowed? name := by
  rw [decisions, Overrides.get?_ofList, OverrideTable.allowed?, Overrides.get?, ← List.map_reverse]
  induction table.rows.reverse with
  | nil => rfl
  | cons row rest ih =>
    rw [List.map_cons, lookup_cons_eq_ite, lookup_cons_eq_ite, ih]
    by_cases hname : name = row.1 <;> simp [hname]

theorem run_overrides (store : Store) :
    (∃ table, store.overrideTable? = some table ∧
        overrides.run.run store = (.ok (decisions table), store)) ∨
      store.overrideTable? = none ∧
        ∃ failure, overrides.run.run store = (.error failure, store) := by
  simp only [overrides, read, run_bind, run_tryCatch, run_throw]
  rcases run_onOverrides (Database.noColumn "packagename") (fun table => pure (table.rows, table))
    store with ⟨table, htable, hrun⟩ | ⟨hnone, failure, hrun⟩
  · refine .inl ⟨table, htable, ?_⟩
    obtain ⟨_, hdraft⟩ := overrideTable?_eq_some_iff.mp htable
    rw [hrun]
    simp only [pure, Except.pure, ← hdraft]
    rfl
  · exact .inr ⟨hnone, _, by rw [hrun]⟩

theorem run_setOverride [Surrogates] (store : Store) (name : String) (allowed : Bool) :
    (∃ table, store.overrideTable? = some table ∧
        (setOverride (some name) (Verdict.flag allowed).toInt).run.run store =
          (.ok (), store.saveOverrides (table.set (some name) (Verdict.flag allowed).toInt))) ∨
      ∃ failure, (setOverride (some name) (Verdict.flag allowed).toInt).run.run store =
        (.error failure, store) := by
  have hbind : bindInt (Verdict.flag allowed).toInt = .ok (Verdict.flag allowed).toInt := by
    cases allowed <;> rfl
  simp only [setOverride, write, run_bind, run_tryCatch, run_throw]
  rcases run_onOverrides (Database.noColumnNamed "app_overrides" "packagename")
    (fun table => do
      let name ← bindName (some name)
      let allowed ← bindInt (Verdict.flag allowed).toInt
      pure ((), table.set name allowed)) store with
    ⟨table, htable, hrun⟩ | ⟨hnone, failure, hrun⟩
  · cases hwhole : Text.isWhole name with
    | true =>
      refine .inl ⟨table, htable, ?_⟩
      rw [hrun, hbind, bindName, bindString_of_isWhole hwhole]
      rfl
    | false =>
      refine .inr ⟨.unencodable (Text.unencodable name), ?_⟩
      rw [hrun, bindName, bindString_of_not_isWhole hwhole]
      rfl
  · exact .inr ⟨_, by rw [hrun]⟩

theorem run_removeOverride [Surrogates] (store : Store) (name : String) :
    (∃ table, store.overrideTable? = some table ∧
        (removeOverride (some name)).run.run store =
          (.ok (table.has name), store.saveOverrides (table.remove name))) ∨
      ∃ failure, (removeOverride (some name)).run.run store = (.error failure, store) := by
  simp only [removeOverride, write, run_bind, run_tryCatch, run_throw]
  rcases run_onOverrides (Database.noColumn "packagename")
    (fun table => do
      let name ← bindName (some name)
      pure (name.any table.has, name.elim table table.remove)) store with
    ⟨table, htable, hrun⟩ | ⟨hnone, failure, hrun⟩
  · cases hwhole : Text.isWhole name with
    | true =>
      refine .inl ⟨table, htable, ?_⟩
      rw [hrun, bindName, bindString_of_isWhole hwhole]
      rfl
    | false =>
      refine .inr ⟨.unencodable (Text.unencodable name), ?_⟩
      rw [hrun, bindName, bindString_of_not_isWhole hwhole]
      rfl
  · exact .inr ⟨_, by rw [hrun]⟩

/-- Nothing but the rules is touched, and nothing is saved. -/
def KeepsOverrides {α : Type} (op : Op α) : Prop :=
  ∀ store, (op.run.run store).2.draft.overrides = store.draft.overrides ∧
    (op.run.run store).2.saved = store.saved

theorem keepsOverrides_execute {α : Type} {statement : Database.Statement α}
    (hkeeps : ∀ db answer after, statement.run db = .ok (answer, after) →
      after.overrides = db.overrides) : KeepsOverrides (execute statement) := by
  intro store
  cases hopen : store.isOpen with
  | false => rw [run_execute_closed statement hopen]; exact ⟨rfl, rfl⟩
  | true =>
    rw [run_execute statement hopen]
    cases hrun : statement.run store.draft with
    | error failure => exact ⟨rfl, rfl⟩
    | ok result => exact ⟨hkeeps store.draft result.1 result.2 hrun, rfl⟩

theorem KeepsOverrides.discard {α : Type} {op : Op α} (hop : KeepsOverrides op) :
    KeepsOverrides (discard op) := by
  intro store
  have hkeeps := hop store
  rw [run_discard]
  rcases hrun : op.run.run store with ⟨_ | _, after⟩ <;> simpa [hrun] using hkeeps

theorem overrides_of_onRules {α : Type} {complaint : String}
    {work : RuleTable → Outcome (α × RuleTable)} {db after : Database} {answer : α}
    (hrun : (Database.onRules complaint work).run db = .ok (answer, after)) :
    after.overrides = db.overrides := by
  obtain ⟨rules, overrides, versioned⟩ := db
  cases rules with
  | missing => cases hrun
  | foreign => cases hrun
  | present table =>
    rw [run_onRules complaint work rfl] at hrun
    rcases hwork : work table with failure | ⟨answer, table⟩
    · simp [hwork] at hrun
    · simp only [hwork, Except.ok.injEq, Prod.mk.injEq] at hrun
      rw [← hrun.2]

theorem overrides_of_clearing {db after : Database} {answer : Unit}
    (hrun : clearing.run db = .ok (answer, after)) : after.overrides = db.overrides := by
  obtain ⟨rules, overrides, versioned⟩ := db
  cases rules <;> cases hrun <;> rfl

end Store

theorem Change.keepsOverrides_steps (change : Change) :
    ∀ step ∈ change.steps, Store.KeepsOverrides step := by
  have hrules {α : Type} (complaint : String) (work : RuleTable → Outcome (α × RuleTable)) :
      Store.KeepsOverrides (Store.execute (Database.onRules complaint work)) :=
    Store.keepsOverrides_execute fun _ _ _ => Store.overrides_of_onRules
  have hinsertion (text : Value) (enacted : Int) :
      Store.KeepsOverrides (Store.execute (Store.insertion text enacted)) := hrules _ _
  cases change with
  | add text enacted => simpa [steps] using (hinsertion text enacted).discard
  | enact id enacted => simpa [steps] using (hrules _ _).discard
  | replace texts =>
    intro step hstep
    simp only [steps, List.mem_cons, List.mem_map] at hstep
    rcases hstep with rfl | rfl | ⟨text, _, rfl⟩
    · exact Store.keepsOverrides_execute fun _ _ _ => Store.overrides_of_clearing
    · exact hrules _ _
    · exact (hinsertion text 1).discard

end AllowPolicy
