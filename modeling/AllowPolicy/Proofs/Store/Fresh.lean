import AllowPolicy.Proofs.Store.Contents
import AllowPolicy.Proofs.Store.Overrides
import AllowPolicy.Proofs.Store.RuleOps

namespace AllowPolicy.Store

/-- A store as it is when it was just connected. -/
structure Fresh (store : Store) : Prop where
  isOpen : store.isOpen = true
  draft : store.Settled

theorem fresh_connect (db : Database) (volatile : Bool) : Fresh (.connect db volatile) := ⟨rfl, rfl⟩

theorem draft_connect (db : Database) (volatile : Bool) :
    (Store.connect db volatile).draft = db.completed := rfl

variable {α : Type} {store after : Store}

/-- A statement that goes through has found its table. -/
theorem exists_of_onRules {complaint : String} {work : RuleTable → Outcome (α × RuleTable)}
    {db draft : Database} {answer : α}
    (hrun : (Database.onRules complaint work).run db = .ok (answer, draft)) :
    ∃ table left, db.rules = .present table ∧ work table = .ok (answer, left) ∧
      draft = { db with rules := .present left } := by
  cases hrules : db.rules with
  | missing =>
    obtain ⟨rules, overrides, versioned⟩ := db
    obtain rfl : rules = .missing := hrules
    cases hrun
  | foreign =>
    obtain ⟨rules, overrides, versioned⟩ := db
    obtain rfl : rules = .foreign := hrules
    cases hrun
  | present table =>
    rw [run_onRules _ _ hrules] at hrun
    cases hwork : work table with
    | error failure =>
      rw [hwork] at hrun
      cases hrun
    | ok result =>
      rw [hwork] at hrun
      cases hrun
      exact ⟨table, result.2, rfl, hwork, rfl⟩

/-- What a write does to a store that is open: it saves all that its statement did, or leaves the
    store as it is. -/
theorem write_cases (operation : String) (statement : Database.Statement α)
    (hopen : store.isOpen = true) :
    (∃ answer draft, statement.run store.draft = .ok (answer, draft) ∧
        (write operation statement).run.run store =
          (.ok answer, { store with saved := draft, draft })) ∨
      ∃ failure, (write operation statement).run.run store = (.error failure, store) := by
  rw [run_write _ _ hopen]
  cases hrun : statement.run store.draft with
  | error failure => exact .inr ⟨_, rfl⟩
  | ok result => exact .inl ⟨result.1, result.2, rfl, rfl⟩

/-- A rule is added under the next number and saved, if there is a table and a number left and the
    text can be encoded. -/
theorem Fresh.run_addRule [Surrogates] (hfresh : Fresh store) {table : RuleTable}
    (htable : store.draft.rules = .present table) (hroom : (table.last : Int) < RuleTable.greatest)
    {text : String} (hwhole : Text.isWhole text = true) (enacted : Bool) :
    (addRule (.text text) enacted.toInt).run.run store =
      (.ok (table.last + 1), store.saveRules (table.append text enacted.toInt)) := by
  rw [addRule, run_write _ _ hfresh.isOpen, run_insertion htable hroom hwhole]
  rfl

theorem Fresh.addRule_cases [Surrogates] (hfresh : Fresh store) (text : String) (enacted : Bool) :
    (∃ table, store.draft.rules = .present table ∧ (table.last : Int) < RuleTable.greatest ∧
        Text.isWhole text = true ∧ (addRule (.text text) enacted.toInt).run.run store =
          (.ok (table.last + 1), store.saveRules (table.append text enacted.toInt))) ∨
      ∃ failure, (addRule (.text text) enacted.toInt).run.run store = (.error failure, store) := by
  obtain ⟨id, draft, hrun, _⟩ | hfailed := write_cases "add_rule"
    (insertion (.text text) enacted.toInt) hfresh.isOpen
  · obtain ⟨table, left, htable, _, _⟩ := exists_of_onRules hrun
    cases hwhole : Text.isWhole text with
    | true =>
      by_cases hroom : (table.last : Int) < RuleTable.greatest
      · exact .inl ⟨table, htable, hroom, rfl, hfresh.run_addRule htable hroom hwhole enacted⟩
      · rw [run_insertion_full htable (Int.not_lt.mp hroom) hwhole] at hrun
        cases hrun
    | false =>
      rw [run_insertion_lone htable hwhole] at hrun
      cases hrun
  · exact .inr hfailed

theorem Fresh.setEnacted_cases (hfresh : Fresh store) (id : Int) (enacted : Bool) :
    (∃ table, store.draft.rules = .present table ∧
        (setEnacted id enacted.toInt).run.run store =
          (.ok (table.has id), store.saveRules (table.setEnacted id enacted.toInt))) ∨
      ∃ failure, (setEnacted id enacted.toInt).run.run store = (.error failure, store) := by
  obtain ⟨found, draft, hrun, hwrite⟩ | hfailed := write_cases "set_enacted"
    (Database.onRules (Database.noColumn "rule_id") fun table => do
      let enacted ← bindInt enacted.toInt
      let id ← bindInt id
      pure (table.has id, table.setEnacted id enacted)) hfresh.isOpen
  · obtain ⟨table, left, htable, hwork, rfl⟩ := exists_of_onRules hrun
    rw [bindInt_flag] at hwork
    cases hbind : bindInt id with
    | error failure =>
      rw [hbind] at hwork
      cases hwork
    | ok same =>
      have hsame : same = id := by
        unfold bindInt at hbind
        split at hbind <;> cases hbind
        rfl
      rw [hbind, hsame] at hwork
      cases hwork
      exact .inl ⟨table, htable, hwrite⟩
  · exact .inr hfailed

/-- The rules in force are read off the table, in its order. -/
theorem Fresh.run_enactedRules (hfresh : Fresh store) {table : RuleTable}
    (htable : store.draft.rules = .present table) :
    enactedRules.run.run store =
      (.ok ((table.rows.filter (·.enacted = 1)).map fun row => (row.id, row.text)), store) := by
  have hrows : (read "enacted_rules" rows).run.run store = (.ok table.rows, store) := by
    simp only [read, run_tryCatch, run_execute _ hfresh.isOpen, rows, run_onRules _ _ htable, pure,
      Except.pure, ← htable]
  simp only [enactedRules, run_bind, hrows, run_pure]

/-- A statement about overrides works on the table if there is one. -/
theorem run_onOverrides_present (complaint : String)
    (work : OverrideTable → Outcome (α × OverrideTable)) {db : Database} {table : OverrideTable}
    (htable : db.overrides = .present table) :
    (Database.onOverrides complaint work).run db =
      match work table with
      | .ok (answer, after) => .ok (answer, { db with overrides := .present after })
      | .error failure => .error failure := by
  simp only [Database.onOverrides, StateT.run_bind, StateT.run_get, StateT.run_monadLift,
    StateT.run_modify, StateT.run_pure, htable, Table.content, pure_bind, bind_assoc]
  change (work table).bind _ = _
  rcases work table with failure | result <;> rfl

/-- The overrides are read if there is a table. -/
theorem run_overrides_of_table {table : OverrideTable}
    (htable : store.overrideTable? = some table) :
    overrides.run.run store = (.ok (decisions table), store) := by
  obtain ⟨found, hfound, hrun⟩ | ⟨hnone, _⟩ := store.run_overrides
  · rw [htable] at hfound
    cases hfound
    exact hrun
  · rw [htable] at hnone
    cases hnone

/-- An override is stored if there is a table and the name can be encoded. -/
theorem Fresh.run_setOverride [Surrogates] (hfresh : Fresh store) {table : OverrideTable}
    (htable : store.draft.overrides = .present table) {name : String}
    (hwhole : Text.isWhole name = true) (allowed : Bool) :
    (setOverride (some name) (Verdict.flag allowed).toInt).run.run store =
      (.ok (), store.saveOverrides (table.set (some name) (Verdict.flag allowed).toInt)) := by
  have hbind : bindInt (Verdict.flag allowed).toInt = .ok (Verdict.flag allowed).toInt := by
    cases allowed <;> rfl
  rw [setOverride, run_write _ _ hfresh.isOpen, run_onOverrides_present _ _ htable, bindName,
    bindString_of_isWhole hwhole, hbind]
  rfl

theorem Fresh.run_removeOverride [Surrogates] (hfresh : Fresh store) {table : OverrideTable}
    (htable : store.draft.overrides = .present table) {name : String}
    (hwhole : Text.isWhole name = true) :
    (removeOverride (some name)).run.run store =
      (.ok (table.has name), store.saveOverrides (table.remove name)) := by
  rw [removeOverride, run_write _ _ hfresh.isOpen, run_onOverrides_present _ _ htable, bindName,
    bindString_of_isWhole hwhole]
  rfl

/-- An override is refused for a name in which surrogates stand alone, and so is its removal. -/
theorem Fresh.run_setOverride_lone [Surrogates] (hfresh : Fresh store) {table : OverrideTable}
    (htable : store.draft.overrides = .present table) {name : String}
    (hlone : Text.isWhole name = false) (allowed : Int) :
    (setOverride (some name) allowed).run.run store =
      (.error (.unencodable (Text.unencodable name)), store) := by
  rw [setOverride, run_write _ _ hfresh.isOpen, run_onOverrides_present _ _ htable, bindName,
    bindString_of_not_isWhole hlone]
  rfl

theorem Fresh.run_removeOverride_lone [Surrogates] (hfresh : Fresh store) {table : OverrideTable}
    (htable : store.draft.overrides = .present table) {name : String}
    (hlone : Text.isWhole name = false) :
    (removeOverride (some name)).run.run store =
      (.error (.unencodable (Text.unencodable name)), store) := by
  rw [removeOverride, run_write _ _ hfresh.isOpen, run_onOverrides_present _ _ htable, bindName,
    bindString_of_not_isWhole hlone]
  rfl

/-- A number that no row has changes nothing. -/
theorem setEnacted_of_not_has {table : RuleTable} {id : Int} (hunknown : table.has id = false)
    (enacted : Int) : table.setEnacted id enacted = table := by
  have hother : ∀ row ∈ table.rows, ¬ row.id = id := by simpa [RuleTable.has] using hunknown
  have hrows : table.rows.map (fun row => if row.id = id then { row with enacted } else row) =
      table.rows := by
    refine (List.map_congr_left fun row hrow => ?_).trans table.rows.map_id
    rw [if_neg (hother row hrow)]
    rfl
  rw [RuleTable.setEnacted, hrows]

theorem Fresh.saved_of_not_has (hfresh : Fresh store) {table : RuleTable}
    (htable : store.draft.rules = .present table) {id : Int} (hunknown : table.has id = false)
    (enacted : Int) : (store.saveRules (table.setEnacted id enacted)).saved = store.saved := by
  rw [setEnacted_of_not_has hunknown, saveRules, ← htable, ← hfresh.draft]

/-- Uses that leave the store as it is do so one after another. -/
theorem run_mapM_keeps {β : Type} {op : β → Op α}
    (hop : ∀ item store, ((op item).run.run store).2 = store) (items : List β) (store : Store) :
    ((items.mapM op).run.run store).2 = store := by
  induction items with
  | nil => rfl
  | cons item rest ih =>
    have hfirst := hop item store
    simp only [List.mapM_cons, run_bind]
    rcases hrun : (op item).run.run store with ⟨failure | answer, after⟩
    · rw [hrun] at hfirst
      exact hfirst
    · rw [hrun] at hfirst
      obtain rfl : after = store := hfirst
      simp only
      rcases hrest : (rest.mapM op).run.run after with ⟨failure | answers, left⟩
      · rw [hrest] at ih
        exact ih
      · rw [hrest] at ih
        exact ih

theorem run_liftExcept (result : Outcome α) (store : Store) :
    (listRules.liftExcept result).run.run store = (result, store) := by
  cases result <;> rfl

/-- To list the rules leaves the store as it is. -/
theorem run_listRules_keeps (store : Store) : (listRules.run.run store).2 = store := by
  have hrows (answer : List RuleRow) (draft : Database)
      (hrun : rows.run store.draft = .ok (answer, draft)) : draft = store.draft := by
    obtain ⟨table, left, htable, hwork, rfl⟩ := exists_of_onRules hrun
    cases hwork
    rw [← htable]
  rw [listRules, run_bind]
  obtain ⟨answer, _, _, hread⟩ | ⟨failure, hread⟩ := run_read "list_rules" hrows
  · rw [hread]
    exact run_mapM_keeps (fun row store => by rw [run_liftExcept]) answer store
  · rw [hread]

/-- To ask for the overrides leaves the store as it is. -/
theorem run_overrides_keeps (store : Store) : (overrides.run.run store).2 = store := by
  obtain ⟨table, _, hrun⟩ | ⟨_, failure, hrun⟩ := store.run_overrides
  · rw [hrun]
  · rw [hrun]

end AllowPolicy.Store
