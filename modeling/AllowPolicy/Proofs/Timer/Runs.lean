import AllowPolicy.Proofs.Timer.Pending

namespace AllowPolicy.Timer

variable {τ κ : Type}

section States

theorem armed_state_iff {runs : List (Run τ κ)} {place : Nat} :
    runs[place]?.map Run.state = some .armed ↔ ∃ callback, IsArmed runs place callback := by
  rw [Option.map_eq_some_iff]
  constructor
  · rintro ⟨run, hrun, harmed⟩
    exact ⟨run.callback, run, hrun, harmed, rfl⟩
  · rintro ⟨_, run, hrun, harmed, _⟩
    exact ⟨run, hrun, harmed⟩

/-- The run in a place has called its callback. -/
def IsDone (runs : List (Run τ κ)) (place : Nat) : Prop :=
  ∃ run, runs[place]? = some run ∧ run.state = .done

theorem IsDone.lt_length {runs : List (Run τ κ)} {place : Nat} (hdone : IsDone runs place) :
    place < runs.length := by
  obtain ⟨run, hrun, _⟩ := hdone
  exact (List.getElem?_eq_some_iff.mp hrun).1

theorem isDone_cancel {runs : List (Run τ κ)} {place other : Nat} :
    IsDone (cancel runs place) other ↔ IsDone runs other := by
  unfold IsDone cancel
  rw [List.getElem?_modify]
  by_cases hplace : place = other
  · subst hplace
    simp only [if_true, Option.map_eq_map, Option.map_eq_some_iff]
    constructor
    · rintro ⟨_, ⟨run, hrun, rfl⟩, hstate⟩
      refine ⟨run, hrun, ?_⟩
      split at hstate
      · cases hstate
      · exact hstate
    · rintro ⟨run, hrun, hstate⟩
      refine ⟨_, ⟨run, hrun, rfl⟩, ?_⟩
      rw [if_neg (by rw [hstate]; exact State.noConfusion)]
      exact hstate
  · simp [hplace]

theorem isDone_cancelAll {timer : Timer τ κ} {place : Nat} :
    IsDone timer.cancelAll.runs place ↔ IsDone timer.runs place :=
  cancelAll_induction (P := fun runs => IsDone runs place ↔ IsDone timer.runs place) Iff.rfl
    fun _ _ hruns => isDone_cancel.trans hruns

theorem isDone_concat {runs : List (Run τ κ)} {run : Run τ κ} (harmed : run.state = .armed)
    {place : Nat} : IsDone (runs ++ [run]) place ↔ IsDone runs place := by
  unfold IsDone
  constructor
  · rintro ⟨found, hfound, hstate⟩
    rw [List.getElem?_append] at hfound
    split at hfound
    · exact ⟨found, hfound, hstate⟩
    · obtain rfl := List.mem_singleton.mp (List.mem_of_getElem? hfound)
      rw [harmed] at hstate
      cases hstate
  · rintro ⟨found, hfound, hstate⟩
    exact ⟨found, List.getElem?_append_left (List.getElem?_eq_some_iff.mp hfound).1 ▸ hfound,
      hstate⟩

theorem isDone_modify_done {runs : List (Run τ κ)} {place other : Nat}
    (hplace : place < runs.length) :
    IsDone (runs.modify place fun run => { run with state := .done }) other ↔
      other = place ∨ IsDone runs other := by
  unfold IsDone
  rw [List.getElem?_modify]
  by_cases hother : place = other
  · subst hother
    simp [List.getElem?_eq_getElem hplace]
  · simp [hother, Ne.symm hother]

end States

section Callbacks

/-- The callbacks of the runs, each in the place of its run. -/
def callbacks (timer : Timer τ κ) : List κ := timer.runs.map Run.callback

theorem map_callback_modify {change : Run τ κ → Run τ κ}
    (hchange : ∀ run, (change run).callback = run.callback) (runs : List (Run τ κ)) (place : Nat) :
    (runs.modify place change).map Run.callback = runs.map Run.callback := by
  refine List.ext_getElem? fun other => ?_
  rw [List.getElem?_map, List.getElem?_map, List.getElem?_modify]
  split
  · simp [Function.comp_def, hchange]
  · simp

theorem map_callback_cancel (runs : List (Run τ κ)) (place : Nat) :
    (cancel runs place).map Run.callback = runs.map Run.callback :=
  map_callback_modify (fun run => by split <;> rfl) runs place

theorem callbacks_cancelAll (timer : Timer τ κ) : timer.cancelAll.callbacks = timer.callbacks :=
  cancelAll_induction (P := fun runs => runs.map Run.callback = timer.callbacks) rfl
    fun runs place hruns => (map_callback_cancel runs place).trans hruns

end Callbacks

section Schedule

variable [DecidableEq κ]

theorem isDone_freed {timer : Timer τ κ} {callback : κ} {place : Nat} :
    IsDone (timer.freed callback) place ↔ IsDone timer.runs place := by
  unfold freed
  split
  · exact isDone_cancel
  · rfl

theorem map_callback_freed (timer : Timer τ κ) (callback : κ) :
    (timer.freed callback).map Run.callback = timer.callbacks := by
  unfold freed
  split
  · exact map_callback_cancel _ _
  · rfl

variable [Sub τ] [LT τ] [DecidableLT τ] [OfNat τ 0]

theorem isDone_schedule {timer : Timer τ κ} {now moment : τ} {callback : κ} {place : Nat} :
    IsDone (timer.schedule now moment callback).runs place ↔ IsDone timer.runs place := by
  rw [schedule_eq, isDone_concat rfl, isDone_freed]

theorem callbacks_schedule (timer : Timer τ κ) (now moment : τ) (callback : κ) :
    (timer.schedule now moment callback).callbacks = timer.callbacks ++ [callback] := by
  rw [schedule_eq, callbacks, List.map_append, map_callback_freed]
  rfl

end Schedule

section Elapse

variable [DecidableEq κ]

theorem callbacks_elapse (timer : Timer τ κ) (place : Nat) (late : Bool) :
    (timer.elapse place late).1.callbacks = timer.callbacks := by
  obtain hnone | ⟨run, _, hdue⟩ := elapse_cases timer place late
  · rw [hnone]
  · rw [hdue, callbacks, map_callback_modify]
    · rfl
    · exact fun _ => rfl

/-- A run that gets hold of the timer calls its callback, unless it did before. -/
theorem elapse_late {timer : Timer τ κ} {place : Nat} {run : Run τ κ}
    (hrun : timer.runs[place]? = some run) (hstate : ¬ IsDone timer.runs place) :
    timer.elapse place true =
      ({ runs := timer.runs.modify place fun run => { run with state := .done }
         pending := timer.pending.filter (· ≠ (run.callback, place)) }, some run.callback) := by
  have hdue : run.state = .armed ∨ true = true ∧ run.state = .cancelled := by
    cases hrunState : run.state with
    | armed => exact .inl rfl
    | cancelled => exact .inr ⟨rfl, rfl⟩
    | done => exact absurd ⟨run, hrun, hrunState⟩ hstate
  rw [elapse, hrun]
  exact if_pos hdue

end Elapse

end AllowPolicy.Timer
