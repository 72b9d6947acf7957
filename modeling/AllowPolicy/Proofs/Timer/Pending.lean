import AllowPolicy.Timer
import Mathlib.Algebra.Order.Group.Defs

namespace AllowPolicy.Timer

variable {τ κ : Type}

/-- The run in a place is armed, and this is what it calls. -/
def IsArmed (runs : List (Run τ κ)) (place : Nat) (callback : κ) : Prop :=
  ∃ run, runs[place]? = some run ∧ run.state = .armed ∧ run.callback = callback

/-- The pending runs are the armed ones, and each callback has one at most. -/
structure Tidy (timer : Timer τ κ) : Prop where
  mem_pending : ∀ callback place,
    (callback, place) ∈ timer.pending ↔ IsArmed timer.runs place callback
  unique : ∀ callback place other, IsArmed timer.runs place callback →
    IsArmed timer.runs other callback → place = other

/-- Exactly one run of a callback is pending, with this delay. -/
def Awaits (timer : Timer τ κ) (callback : κ) (delay : τ) : Prop :=
  ∃ place, timer.runs[place]? = some { delay, callback } ∧
    ∀ other, IsArmed timer.runs other callback → other = place

theorem tidy_empty : Tidy ({} : Timer τ κ) := by
  have hnone (place : Nat) (callback : κ) : ¬ IsArmed ([] : List (Run τ κ)) place callback := by
    rintro ⟨run, hrun, _⟩
    cases hrun
  constructor
  · intro callback place
    exact iff_of_false List.not_mem_nil (hnone place callback)
  · intro callback place other harmed
    exact absurd harmed (hnone place callback)

theorem IsArmed.callback_eq {runs : List (Run τ κ)} {place : Nat} {callback other : κ}
    (harmed : IsArmed runs place callback) (hother : IsArmed runs place other) :
    callback = other := by
  obtain ⟨run, hrun, _, rfl⟩ := harmed
  obtain ⟨same, hsame, _, rfl⟩ := hother
  obtain rfl : run = same := Option.some.inj (hrun.symm.trans hsame)
  rfl

theorem IsArmed.lt_length {runs : List (Run τ κ)} {place : Nat} {callback : κ}
    (harmed : IsArmed runs place callback) : place < runs.length := by
  obtain ⟨run, hrun, _⟩ := harmed
  exact (List.getElem?_eq_some_iff.mp hrun).1

/-- A run that is put out of arms is so in its place, and no other run changes. -/
theorem isArmed_modify {change : Run τ κ → Run τ κ} (hchange : ∀ run, (change run).state ≠ .armed)
    {runs : List (Run τ κ)} {place other : Nat} {callback : κ} :
    IsArmed (runs.modify place change) other callback ↔
      other ≠ place ∧ IsArmed runs other callback := by
  unfold IsArmed
  rw [List.getElem?_modify]
  by_cases hplace : place = other
  · subst hplace
    simp only [if_true, ne_eq, not_true_eq_false, false_and, iff_false]
    rintro ⟨run, hrun, harmed, _⟩
    obtain ⟨before, _, rfl⟩ := Option.map_eq_some_iff.mp hrun
    exact hchange before harmed
  · simp [hplace, Ne.symm hplace]

theorem isArmed_cancel {runs : List (Run τ κ)} {place other : Nat} {callback : κ} :
    IsArmed (cancel runs place) other callback ↔ other ≠ place ∧ IsArmed runs other callback := by
  refine isArmed_modify fun run => ?_
  split
  · exact State.noConfusion
  · assumption

theorem length_cancel (runs : List (Run τ κ)) (place : Nat) :
    (cancel runs place).length = runs.length := List.length_modify ..

theorem isArmed_concat {runs : List (Run τ κ)} {run : Run τ κ} {place : Nat} {callback : κ} :
    IsArmed (runs ++ [run]) place callback ↔
      IsArmed runs place callback ∨
        (place = runs.length ∧ run.state = .armed ∧ run.callback = callback) := by
  unfold IsArmed
  constructor
  · rintro ⟨found, hfound, harmed, hcallback⟩
    rw [List.getElem?_append] at hfound
    split at hfound
    · exact .inl ⟨found, hfound, harmed, hcallback⟩
    · rename_i hbeyond
      rw [List.getElem?_singleton] at hfound
      split at hfound
      · cases hfound
        exact .inr ⟨by omega, harmed, hcallback⟩
      · cases hfound
  · rintro (⟨found, hfound, harmed, hcallback⟩ | ⟨rfl, harmed, hcallback⟩)
    · exact ⟨found, List.getElem?_append_left (List.getElem?_eq_some_iff.mp hfound).1 ▸ hfound,
        harmed, hcallback⟩
    · exact ⟨run, List.getElem?_concat_length, harmed, hcallback⟩

section Schedule

variable [DecidableEq κ]

/-- The runs after the pending one of a callback is cancelled. -/
def freed (timer : Timer τ κ) (callback : κ) : List (Run τ κ) :=
  match timer.pending.lookup callback with
  | some place => cancel timer.runs place
  | none => timer.runs

theorem length_freed (timer : Timer τ κ) (callback : κ) :
    (timer.freed callback).length = timer.runs.length := by
  unfold freed
  split
  · exact length_cancel _ _
  · rfl

theorem mem_of_lookup {pending : List (κ × Nat)} {callback : κ} {place : Nat}
    (hlookup : pending.lookup callback = some place) : (callback, place) ∈ pending := by
  obtain ⟨early, late, rfl, _⟩ := List.lookup_eq_some_iff.mp hlookup
  simp

theorem not_mem_of_lookup {pending : List (κ × Nat)} {callback : κ}
    (hlookup : pending.lookup callback = none) (place : Nat) : (callback, place) ∉ pending := by
  intro hmem
  have hne := List.lookup_eq_none_iff.mp hlookup _ hmem
  simp at hne

variable {timer : Timer τ κ}

theorem Tidy.isArmed_freed (htidy : timer.Tidy) {callback other : κ} {place : Nat} :
    IsArmed (timer.freed callback) place other ↔
      other ≠ callback ∧ IsArmed timer.runs place other := by
  unfold freed
  cases hlookup : timer.pending.lookup callback with
  | none =>
    refine ⟨fun harmed => ⟨?_, harmed⟩, And.right⟩
    rintro rfl
    exact not_mem_of_lookup hlookup place ((htidy.mem_pending _ _).mpr harmed)
  | some held =>
    have hheld := (htidy.mem_pending _ _).mp (mem_of_lookup hlookup)
    rw [isArmed_cancel]
    refine and_congr_left fun harmed => not_congr ⟨?_, ?_⟩
    · rintro rfl
      exact harmed.callback_eq hheld
    · rintro rfl
      exact htidy.unique _ _ _ harmed hheld

variable [Sub τ] [LT τ] [DecidableLT τ] [OfNat τ 0]

theorem schedule_eq (timer : Timer τ κ) (now moment : τ) (callback : κ) :
    timer.schedule now moment callback =
      { runs := timer.freed callback ++ [{ delay := delayUntil now moment, callback }]
        pending := timer.pending.filter (·.1 ≠ callback) ++
          [(callback, (timer.freed callback).length)] } := rfl

theorem pending_schedule_ne_nil (timer : Timer τ κ) (now moment : τ) (callback : κ) :
    (timer.schedule now moment callback).pending ≠ [] := by
  simp [schedule_eq]

theorem length_schedule (timer : Timer τ κ) (now moment : τ) (callback : κ) :
    (timer.schedule now moment callback).runs.length = timer.runs.length + 1 := by
  rw [schedule_eq, List.length_append, List.length_singleton, length_freed]

/-- The runs that are armed after a callback is scheduled: its new one, and those of the others. -/
theorem Tidy.isArmed_schedule (htidy : timer.Tidy) (now moment : τ) {callback other : κ}
    {place : Nat} :
    IsArmed (timer.schedule now moment callback).runs place other ↔
      (other ≠ callback ∧ IsArmed timer.runs place other) ∨
        (other = callback ∧ place = (timer.freed callback).length) := by
  rw [schedule_eq, isArmed_concat, htidy.isArmed_freed]
  refine or_congr_right ⟨?_, ?_⟩
  · rintro ⟨rfl, _, rfl⟩
    exact ⟨rfl, rfl⟩
  · rintro ⟨rfl, rfl⟩
    exact ⟨rfl, rfl, rfl⟩

theorem Tidy.schedule (htidy : timer.Tidy) (now moment : τ) (callback : κ) :
    (timer.schedule now moment callback).Tidy where
  mem_pending other place := by
    rw [htidy.isArmed_schedule, ← htidy.mem_pending, schedule_eq]
    simp [and_comm]
  unique other place another hplace hanother := by
    rw [htidy.isArmed_schedule] at hplace hanother
    obtain ⟨hne, harmed⟩ | ⟨rfl, rfl⟩ := hplace
    · obtain ⟨_, hsame⟩ | ⟨hcallback, _⟩ := hanother
      · exact htidy.unique _ _ _ harmed hsame
      · exact absurd hcallback hne
    · obtain ⟨hne, _⟩ | ⟨_, rfl⟩ := hanother
      · exact absurd rfl hne
      · rfl

theorem Tidy.awaits_schedule (htidy : timer.Tidy) (now moment : τ) (callback : κ) :
    (timer.schedule now moment callback).Awaits callback (delayUntil now moment) := by
  refine ⟨(timer.freed callback).length, List.getElem?_concat_length, fun other hother => ?_⟩
  obtain ⟨hne, _⟩ | ⟨_, hplace⟩ := (htidy.isArmed_schedule now moment).mp hother
  · exact absurd rfl hne
  · exact hplace

end Schedule

section Cancel

theorem isArmed_cancelAll {timer : Timer τ κ} {place : Nat} {callback : κ} :
    IsArmed timer.cancelAll.runs place callback ↔
      (∀ other, (other, place) ∉ timer.pending) ∧ IsArmed timer.runs place callback := by
  have hcancelled (pending : List (κ × Nat)) (runs : List (Run τ κ)) :
      IsArmed (pending.foldl (fun runs entry => cancel runs entry.2) runs) place callback ↔
        (∀ other, (other, place) ∉ pending) ∧ IsArmed runs place callback := by
    induction pending generalizing runs with
    | nil => simp
    | cons entry rest ih =>
      rw [List.foldl_cons, ih, isArmed_cancel, ← and_assoc]
      refine and_congr_left fun _ => ⟨?_, fun hnone => ⟨fun other hmem => ?_, ?_⟩⟩
      · rintro ⟨hrest, hne⟩ other hmem
        rcases List.mem_cons.mp hmem with rfl | hmem
        · exact hne rfl
        · exact hrest other hmem
      · exact hnone other (List.mem_cons_of_mem entry hmem)
      · rintro rfl
        exact hnone entry.1 List.mem_cons_self
  exact hcancelled timer.pending timer.runs

/-- No run is armed any more once all are cancelled. -/
theorem Tidy.cancelAll {timer : Timer τ κ} (htidy : timer.Tidy) : timer.cancelAll.Tidy := by
  have hnone (callback : κ) (place : Nat) : ¬ IsArmed timer.cancelAll.runs place callback := by
    rw [isArmed_cancelAll]
    rintro ⟨hnone, harmed⟩
    exact hnone callback ((htidy.mem_pending callback place).mpr harmed)
  exact ⟨fun callback place => iff_of_false List.not_mem_nil (hnone callback place),
    fun callback place _ harmed => absurd harmed (hnone callback place)⟩

/-- What cancelling one run keeps, cancelling all keeps. -/
theorem cancelAll_induction {P : List (Run τ κ) → Prop} {timer : Timer τ κ}
    (hruns : P timer.runs) (hcancel : ∀ runs place, P runs → P (cancel runs place)) :
    P timer.cancelAll.runs := by
  have hcancelled (pending : List (κ × Nat)) (runs : List (Run τ κ)) (hruns : P runs) :
      P (pending.foldl (fun runs entry => cancel runs entry.2) runs) := by
    induction pending generalizing runs with
    | nil => exact hruns
    | cons entry rest ih => exact ih _ (hcancel runs entry.2 hruns)
  exact hcancelled timer.pending timer.runs hruns

theorem length_cancelAll (timer : Timer τ κ) :
    timer.cancelAll.runs.length = timer.runs.length :=
  cancelAll_induction (P := fun runs => runs.length = timer.runs.length) rfl
    fun runs place hruns => (length_cancel runs place).trans hruns

end Cancel

section Elapse

variable [DecidableEq κ] {timer : Timer τ κ}

/-- A run whose delay has passed is put out of arms, if it was armed. -/
theorem elapse_cases (timer : Timer τ κ) (place : Nat) (late : Bool) :
    timer.elapse place late = (timer, none) ∨
      ∃ run, timer.runs[place]? = some run ∧ timer.elapse place late =
        ({ runs := timer.runs.modify place fun run => { run with state := .done }
           pending := timer.pending.filter (· ≠ (run.callback, place)) }, some run.callback) := by
  unfold elapse
  cases hrun : timer.runs[place]? with
  | none => exact .inl rfl
  | some run =>
    simp only
    split
    · exact .inr ⟨run, rfl, rfl⟩
    · exact .inl rfl

theorem length_elapse (timer : Timer τ κ) (place : Nat) (late : Bool) :
    (timer.elapse place late).1.runs.length = timer.runs.length := by
  obtain hnone | ⟨run, _, hdue⟩ := elapse_cases timer place late
  · rw [hnone]
  · rw [hdue, List.length_modify]

theorem pending_elapse {timer : Timer τ κ} (hnone : timer.pending = []) (place : Nat)
    (late : Bool) : (timer.elapse place late).1.pending = [] := by
  obtain hsame | ⟨run, _, hdue⟩ := elapse_cases timer place late
  · rw [hsame, hnone]
  · rw [hdue, hnone]
    rfl

theorem Tidy.elapse (htidy : timer.Tidy) (place : Nat) (late : Bool) :
    (timer.elapse place late).1.Tidy := by
  obtain hnone | ⟨run, hrun, hdue⟩ := elapse_cases timer place late
  · rw [hnone]
    exact htidy
  · rw [hdue]
    have harmed (callback : κ) (other : Nat) :
        IsArmed (timer.runs.modify place fun run => { run with state := .done }) other callback ↔
          other ≠ place ∧ IsArmed timer.runs other callback :=
      isArmed_modify fun _ => State.noConfusion
    constructor
    · intro callback other
      rw [harmed, ← htidy.mem_pending, List.mem_filter, decide_eq_true_eq, and_comm]
      refine and_congr_left fun hmem => not_congr ⟨fun hsame => congrArg Prod.snd hsame, ?_⟩
      rintro rfl
      obtain ⟨same, hsame, _, rfl⟩ := (htidy.mem_pending _ _).mp hmem
      rw [hrun] at hsame
      cases hsame
      rfl
    · intro callback one other hone hother
      exact htidy.unique callback one other ((harmed _ _).mp hone).2 ((harmed _ _).mp hother).2

end Elapse

/-- A run comes due at its moment, or at once if the moment is over. -/
theorem add_delayUntil [AddCommGroup τ] [LinearOrder τ] [IsOrderedAddMonoid τ] (now moment : τ) :
    now + delayUntil now moment = max now moment := by
  unfold delayUntil
  split
  · rename_i hlater
    rw [max_eq_right (sub_pos.mp hlater).le, add_sub_cancel]
  · rename_i hover
    rw [max_eq_left (not_lt.mp fun hlater => hover (sub_pos.mpr hlater)), add_zero]

end AllowPolicy.Timer
