import AllowPolicy.Proofs.Lookup
import AllowPolicy.Proofs.Timer.Runs
import Mathlib.Data.List.Induction
import Mathlib.Data.List.Nodup
import Mathlib.Tactic.Tauto

namespace AllowPolicy.Timer

variable {τ κ : Type}

/-- What happens at a timer. A callback does nothing that others could not do meanwhile. -/
inductive Deed (τ κ : Type) where
  /-- A run is asked for, by a callback that a run has called or by anybody else. -/
  | schedule (now moment : τ) (callback : κ)
  | cancelAll
  /-- A run has waited out its delay and looks whether it was cancelled. -/
  | goOff (place : Nat)
  /-- A run that has gone off gets hold of the timer, and then calls its callback. -/
  | call (place : Nat)
  /-- The callback that a run called is through. -/
  | comeBack (place : Nat)
  deriving DecidableEq

/-- A timer and its runs at work. -/
structure Watch (τ κ : Type) where
  timer : Timer τ κ := {}
  /-- The runs that have gone off and are still to call. -/
  off : List Nat := []
  /-- Every call so far, by the place of its run. -/
  calls : List (Nat × κ) := []
  /-- The runs whose callback is not through. -/
  inside : List Nat := []

namespace Deed

/-- The callback that a run is asked for. -/
def asked? : Deed τ κ → Option κ
  | .schedule _ _ callback => some callback
  | _ => none

/-- The pending run of the callback is replaced or cancelled. -/
def Ends (callback : κ) : Deed τ κ → Prop
  | .schedule _ _ other => other = callback
  | .cancelAll => True
  | _ => False

end Deed

/-- The callbacks of the runs that were asked for, each in the place of its run. -/
def asked (deeds : List (Deed τ κ)) : List κ := deeds.filterMap Deed.asked?

theorem asked_append (early late : List (Deed τ κ)) :
    asked (early ++ late) = asked early ++ asked late := List.filterMap_append

theorem asked_concat (deeds : List (Deed τ κ)) (deed : Deed τ κ) :
    asked (deeds ++ [deed]) = asked deeds ++ deed.asked?.toList := by
  rw [asked_append]
  cases deed <;> rfl

/-- A run was asked for in this place, and none of its callback since, nor were all cancelled. -/
def Stands (deeds : List (Deed τ κ)) (callback : κ) (place : Nat) : Prop :=
  ∃ early now moment late, deeds = early ++ .schedule now moment callback :: late ∧
    place = (asked early).length ∧ ∀ deed ∈ late, ¬ deed.Ends callback

theorem not_stands_nil (callback : κ) (place : Nat) :
    ¬ Stands ([] : List (Deed τ κ)) callback place := by
  rintro ⟨early, now, moment, late, hdeeds, _⟩
  cases early <;> cases hdeeds

theorem stands_iff {deeds : List (Deed τ κ)} {callback : κ} {place : Nat} :
    Stands deeds callback place ↔ ∃ early found late, deeds = early ++ found :: late ∧
      (∃ now moment, found = .schedule now moment callback ∧ place = (asked early).length) ∧
        ∀ later ∈ late, ¬ later.Ends callback := by
  constructor
  · rintro ⟨early, now, moment, late, hdeeds, hplace, hkept⟩
    exact ⟨early, _, late, hdeeds, ⟨now, moment, rfl, hplace⟩, hkept⟩
  · rintro ⟨early, _, late, hdeeds, ⟨now, moment, rfl, hplace⟩, hkept⟩
    exact ⟨early, now, moment, late, hdeeds, hplace, hkept⟩

theorem stands_concat_iff {deeds : List (Deed τ κ)} {last : Deed τ κ} {callback : κ}
    {place : Nat} : Stands (deeds ++ [last]) callback place ↔
      (∃ now moment, last = .schedule now moment callback ∧ place = (asked deeds).length) ∨
        (¬ last.Ends callback ∧ Stands deeds callback place) := by
  rw [stands_iff, exists_latest_concat_iff, ← stands_iff]

theorem Stands.getElem?_asked {deeds : List (Deed τ κ)} {callback : κ} {place : Nat}
    (hstands : Stands deeds callback place) :
    (asked deeds)[place]? = some callback := by
  obtain ⟨early, now, moment, late, rfl, rfl, _⟩ := hstands
  simp [asked, Deed.asked?]

/-- A run that stands was asked for, and so it stood before what came after. -/
theorem Stands.of_append {early late : List (Deed τ κ)} {callback : κ} {place : Nat}
    (hstands : Stands (early ++ late) callback place) (hplace : place < (asked early).length) :
    Stands early callback place := by
  induction late using List.reverseRecOn with
  | nil => rwa [List.append_nil] at hstands
  | append_singleton rest last ih =>
    rw [← List.append_assoc] at hstands
    obtain ⟨_, _, _, hlength⟩ | ⟨_, hstands⟩ := stands_concat_iff.mp hstands
    · rw [asked_append, List.length_append] at hlength
      exact absurd hlength (Nat.lt_add_right _ hplace).ne
    · exact ih hstands

/-- A deed that asks for no run and ends none. -/
def Deed.Idle (deed : Deed τ κ) : Prop := deed.asked? = none ∧ ∀ callback, ¬ deed.Ends callback

theorem Deed.idle_goOff (place : Nat) : (Deed.goOff place : Deed τ κ).Idle := ⟨rfl, fun _ => id⟩

theorem Deed.idle_call (place : Nat) : (Deed.call place : Deed τ κ).Idle := ⟨rfl, fun _ => id⟩

theorem Deed.idle_comeBack (place : Nat) : (Deed.comeBack place : Deed τ κ).Idle :=
  ⟨rfl, fun _ => id⟩

namespace Deed.Idle

variable {deed : Deed τ κ}

theorem asked_concat (hidle : deed.Idle) (deeds : List (Deed τ κ)) :
    asked (deeds ++ [deed]) = asked deeds := by
  rw [Timer.asked_concat, hidle.1, Option.toList_none, List.append_nil]

theorem stands_concat (hidle : deed.Idle) {deeds : List (Deed τ κ)} {callback : κ} {place : Nat} :
    Stands (deeds ++ [deed]) callback place ↔ Stands deeds callback place := by
  rw [stands_concat_iff]
  refine ⟨?_, fun hstands => .inr ⟨hidle.2 callback, hstands⟩⟩
  rintro (⟨now, moment, rfl, _⟩ | ⟨_, hstands⟩)
  · cases hidle.1
  · exact hstands

end Deed.Idle

/-- What holds of a timer at work whatever has happened. -/
structure Sound (deeds : List (Deed τ κ)) (watch : Watch τ κ) : Prop where
  tidy : watch.timer.Tidy
  pending_nodup : (watch.timer.pending.map Prod.fst).Nodup
  callbacks_eq : watch.timer.callbacks = asked deeds
  /-- A run that has gone off was made, and has not called. -/
  off : ∀ place ∈ watch.off, place < watch.timer.runs.length ∧ ¬ IsDone watch.timer.runs place
  mem_calls : ∀ place callback, (place, callback) ∈ watch.calls ↔
    IsDone watch.timer.runs place ∧ (asked deeds)[place]? = some callback
  calls_nodup : (watch.calls.map Prod.fst).Nodup
  isArmed_iff : ∀ place callback, IsArmed watch.timer.runs place callback ↔
    Stands deeds callback place ∧ ¬ IsDone watch.timer.runs place

namespace Sound

variable {deeds : List (Deed τ κ)} {watch : Watch τ κ}

theorem nil : Sound ([] : List (Deed τ κ)) {} where
  tidy := tidy_empty
  pending_nodup := List.nodup_nil
  callbacks_eq := rfl
  off _ hplace := absurd hplace List.not_mem_nil
  mem_calls place callback := by simp [asked]
  calls_nodup := List.nodup_nil
  isArmed_iff place callback := by
    refine iff_of_false ?_ fun hstands => not_stands_nil callback place hstands.1
    rintro ⟨run, hrun, _⟩
    cases hrun

theorem length_asked (hsound : Sound deeds watch) :
    (asked deeds).length = watch.timer.runs.length := by
  rw [← hsound.callbacks_eq, callbacks, List.length_map]

theorem getElem?_asked (hsound : Sound deeds watch) {place : Nat} {run : Run τ κ}
    (hrun : watch.timer.runs[place]? = some run) :
    (asked deeds)[place]? = some run.callback := by
  rw [← hsound.callbacks_eq, callbacks, List.getElem?_map, hrun, Option.map_some]

theorem idle (hsound : Sound deeds watch) {deed : Deed τ κ} (hidle : deed.Idle) :
    Sound (deeds ++ [deed]) watch where
  tidy := hsound.tidy
  pending_nodup := hsound.pending_nodup
  callbacks_eq := by rw [hidle.asked_concat, hsound.callbacks_eq]
  off := hsound.off
  mem_calls := by simpa only [hidle.asked_concat] using hsound.mem_calls
  calls_nodup := hsound.calls_nodup
  isArmed_iff := by simpa only [hidle.stands_concat] using hsound.isArmed_iff

theorem goOff (hsound : Sound deeds watch) {place : Nat} {callback : κ}
    (harmed : IsArmed watch.timer.runs place callback) :
    Sound deeds { watch with off := watch.off.insert place } where
  tidy := hsound.tidy
  pending_nodup := hsound.pending_nodup
  callbacks_eq := hsound.callbacks_eq
  off other hother := by
    obtain rfl | hother := List.mem_insert_iff.mp hother
    · exact ⟨harmed.lt_length, ((hsound.isArmed_iff other callback).mp harmed).2⟩
    · exact hsound.off other hother
  mem_calls := hsound.mem_calls
  calls_nodup := hsound.calls_nodup
  isArmed_iff := hsound.isArmed_iff

theorem cancelAll (hsound : Sound deeds watch) :
    Sound (deeds ++ [.cancelAll]) { watch with timer := watch.timer.cancelAll } where
  tidy := hsound.tidy.cancelAll
  pending_nodup := List.nodup_nil
  callbacks_eq := by
    rw [callbacks_cancelAll, hsound.callbacks_eq, asked_concat]
    simp [Deed.asked?]
  off place hplace := by
    rw [isDone_cancelAll, length_cancelAll]
    exact hsound.off place hplace
  mem_calls place callback := by
    rw [hsound.mem_calls, isDone_cancelAll, asked_concat]
    simp [Deed.asked?]
  calls_nodup := hsound.calls_nodup
  isArmed_iff place callback := by
    rw [← hsound.tidy.cancelAll.mem_pending]
    refine iff_of_false List.not_mem_nil fun hstands => ?_
    obtain ⟨_, _, hlast, _⟩ | ⟨hkept, _⟩ := stands_concat_iff.mp hstands.1
    · cases hlast
    · exact hkept trivial

variable [DecidableEq κ]

/-- A run that has gone off and gets hold of the timer is done with, and has called. -/
theorem call (hsound : Sound deeds watch) {place : Nat} (hplace : place ∈ watch.off)
    {run : Run τ κ} (hrun : watch.timer.runs[place]? = some run) (inside : List Nat) :
    Sound deeds
      { timer := (watch.timer.elapse place true).1
        off := watch.off.filter (· ≠ place)
        calls := watch.calls ++ [(place, run.callback)]
        inside } := by
  obtain ⟨hlt, hnew⟩ := hsound.off place hplace
  have htidy := hsound.tidy.elapse place true
  have hcallbacks := callbacks_elapse watch.timer place true
  have hcallback := hsound.getElem?_asked hrun
  rw [elapse_late hrun hnew] at htidy hcallbacks ⊢
  exact
    { tidy := htidy
      pending_nodup := (List.filter_sublist.map Prod.fst).nodup hsound.pending_nodup
      callbacks_eq := hcallbacks.trans hsound.callbacks_eq
      off := fun other hother => by
        rw [List.mem_filter, decide_eq_true_eq] at hother
        rw [List.length_modify, isDone_modify_done hlt, not_or]
        obtain ⟨hother, hne⟩ := hother
        exact ⟨(hsound.off other hother).1, hne, (hsound.off other hother).2⟩
      mem_calls := fun other callback => by
        rw [isDone_modify_done hlt, List.mem_append, hsound.mem_calls, List.mem_singleton,
          Prod.mk.injEq, or_and_right, or_comm]
        refine or_congr_left (and_congr_right ?_)
        rintro rfl
        rw [hcallback, Option.some.injEq, eq_comm]
      calls_nodup := by
        rw [List.map_append, List.map_singleton, List.nodup_append_comm, List.singleton_append,
          List.nodup_cons]
        refine ⟨fun hmem => ?_, hsound.calls_nodup⟩
        obtain ⟨⟨_, callback⟩, hcall, rfl⟩ := List.mem_map.mp hmem
        exact hnew ((hsound.mem_calls _ _).mp hcall).1
      isArmed_iff := fun other callback => by
        rw [isArmed_modify (fun _ => State.noConfusion), isDone_modify_done hlt, not_or,
          hsound.isArmed_iff, and_left_comm] }

variable [Sub τ] [LT τ] [DecidableLT τ] [OfNat τ 0]

theorem schedule (hsound : Sound deeds watch) (now moment : τ) (callback : κ) :
    Sound (deeds ++ [.schedule now moment callback])
      { watch with timer := watch.timer.schedule now moment callback } where
  tidy := hsound.tidy.schedule now moment callback
  pending_nodup := by
    rw [schedule_eq, List.map_append, List.map_singleton, List.nodup_append_comm,
      List.singleton_append, List.nodup_cons]
    exact ⟨by simp, (List.filter_sublist.map Prod.fst).nodup hsound.pending_nodup⟩
  callbacks_eq := by
    rw [callbacks_schedule, hsound.callbacks_eq, asked_concat]
    rfl
  off place hplace := by
    rw [isDone_schedule, length_schedule]
    exact (hsound.off place hplace).imp_left Nat.lt_succ_of_lt
  mem_calls place other := by
    rw [hsound.mem_calls, isDone_schedule, asked_concat]
    refine and_congr_right fun hdone => ?_
    rw [List.getElem?_append_left (hsound.length_asked ▸ hdone.lt_length)]
  calls_nodup := hsound.calls_nodup
  isArmed_iff place other := by
    have hnew (hplace : place = watch.timer.runs.length) : ¬ IsDone watch.timer.runs place :=
      fun hdone => hdone.lt_length.ne hplace
    rw [hsound.tidy.isArmed_schedule, stands_concat_iff, isDone_schedule, length_freed,
      hsound.isArmed_iff, hsound.length_asked]
    constructor
    · rintro (⟨hne, hstands, hdone⟩ | ⟨rfl, hplace⟩)
      · exact ⟨.inr ⟨Ne.symm hne, hstands⟩, hdone⟩
      · exact ⟨.inl ⟨now, moment, rfl, hplace⟩, hnew hplace⟩
    · rintro ⟨⟨_, _, hdeed, hplace⟩ | ⟨hkept, hstands⟩, hdone⟩
      · cases hdeed
        exact .inr ⟨rfl, hplace⟩
      · exact .inl ⟨Ne.symm hkept, hstands, hdone⟩

end Sound

section Run

variable [DecidableEq κ] [Sub τ] [LT τ] [DecidableLT τ] [OfNat τ 0]

def Watch.after (watch : Watch τ κ) : Deed τ κ → Watch τ κ
  | .schedule now moment callback =>
    { watch with timer := watch.timer.schedule now moment callback }
  | .cancelAll => { watch with timer := watch.timer.cancelAll }
  | .goOff place =>
    if watch.timer.runs[place]?.map Run.state = some .armed then
      { watch with off := watch.off.insert place }
    else watch
  | .call place =>
    if place ∈ watch.off then
      let (timer, due) := watch.timer.elapse place true
      { timer
        off := watch.off.filter (· ≠ place)
        calls := watch.calls ++ due.toList.map (place, ·)
        inside := watch.inside ++ [place] }
    else watch
  | .comeBack place => { watch with inside := watch.inside.filter (· ≠ place) }

/-- The timer after deeds in this order, from one without runs. -/
def run (deeds : List (Deed τ κ)) : Watch τ κ := deeds.foldl Watch.after {}

theorem run_concat (deeds : List (Deed τ κ)) (deed : Deed τ κ) :
    run (deeds ++ [deed]) = (run deeds).after deed := by
  rw [run, List.foldl_append]
  rfl

namespace Sound

variable {deeds : List (Deed τ κ)} {watch : Watch τ κ}

theorem after_call (hsound : Sound deeds watch) {place : Nat} (hplace : place ∈ watch.off) :
    ∃ run, watch.timer.runs[place]? = some run ∧ watch.after (.call place) =
      { timer := (watch.timer.elapse place true).1
        off := watch.off.filter (· ≠ place)
        calls := watch.calls ++ [(place, run.callback)]
        inside := watch.inside ++ [place] } := by
  obtain ⟨hlt, hnew⟩ := hsound.off place hplace
  have hrun := List.getElem?_eq_getElem hlt
  refine ⟨watch.timer.runs[place], hrun, ?_⟩
  rw [Watch.after, if_pos hplace, elapse_late hrun hnew]
  rfl

theorem after (hsound : Sound deeds watch) (deed : Deed τ κ) :
    Sound (deeds ++ [deed]) (watch.after deed) := by
  cases deed with
  | schedule now moment callback => exact hsound.schedule now moment callback
  | cancelAll => exact hsound.cancelAll
  | goOff place =>
    have hidle := hsound.idle (Deed.idle_goOff place)
    rw [Watch.after]
    split
    · next hstate =>
      obtain ⟨callback, harmed⟩ := armed_state_iff.mp hstate
      exact hidle.goOff harmed
    · exact hidle
  | call place =>
    have hidle := hsound.idle (Deed.idle_call place)
    by_cases hplace : place ∈ watch.off
    · obtain ⟨run, hrun, hafter⟩ := hsound.after_call hplace
      rw [hafter]
      exact hidle.call hplace hrun _
    · rw [Watch.after, if_neg hplace]
      exact hidle
  | comeBack place =>
    obtain ⟨htidy, hpending, hcallbacks, hoff, hcalls, hnodup, harmed⟩ :=
      hsound.idle (Deed.idle_comeBack place)
    exact ⟨htidy, hpending, hcallbacks, hoff, hcalls, hnodup, harmed⟩

/-- A run is off from when its delay passed, while it was armed, until it calls. -/
theorem mem_off_after (hsound : Sound deeds watch) (deed : Deed τ κ) (place : Nat) :
    place ∈ (watch.after deed).off ↔ (place ∈ watch.off ∧ deed ≠ .call place) ∨
      (deed = .goOff place ∧ ∃ callback, IsArmed watch.timer.runs place callback) := by
  cases deed with
  | schedule now moment callback => simp [Watch.after]
  | cancelAll => simp [Watch.after]
  | goOff other =>
    by_cases harmed : ∃ callback, IsArmed watch.timer.runs other callback
    · rw [Watch.after, if_pos (armed_state_iff.mpr harmed), List.mem_insert_iff,
        Deed.goOff.injEq]
      refine ⟨?_, ?_⟩
      · rintro (rfl | hplace)
        · exact .inr ⟨rfl, harmed⟩
        · exact .inl ⟨hplace, nofun⟩
      · rintro (⟨hplace, _⟩ | ⟨rfl, _⟩)
        · exact .inr hplace
        · exact .inl rfl
    · rw [Watch.after, if_neg (harmed ∘ armed_state_iff.mp)]
      refine ⟨fun hplace => .inl ⟨hplace, nofun⟩, ?_⟩
      rintro (⟨hplace, _⟩ | ⟨hother, hplace⟩)
      · exact hplace
      · cases hother
        exact absurd hplace harmed
  | call other =>
    by_cases hother : other ∈ watch.off
    · obtain ⟨run, _, hafter⟩ := hsound.after_call hother
      simp only [hafter, List.mem_filter, decide_eq_true_eq, ne_eq, Deed.call.injEq, reduceCtorEq,
        false_and, or_false, @eq_comm _ place]
    · rw [Watch.after, if_neg hother]
      simp only [ne_eq, Deed.call.injEq, reduceCtorEq, false_and, or_false, iff_self_and]
      rintro hplace rfl
      exact hother hplace
  | comeBack other => simp [Watch.after]

/-- A run calls its callback when it gets hold of the timer, if it has gone off. -/
theorem mem_calls_after (hsound : Sound deeds watch) (deed : Deed τ κ) (place : Nat)
    (callback : κ) : (place, callback) ∈ (watch.after deed).calls ↔
      (place, callback) ∈ watch.calls ∨
        (deed = .call place ∧ place ∈ watch.off ∧ (asked deeds)[place]? = some callback) := by
  cases deed with
  | schedule now moment other => simp [Watch.after]
  | cancelAll => simp [Watch.after]
  | goOff other =>
    rw [Watch.after]
    split <;> simp
  | call other =>
    by_cases hother : other ∈ watch.off
    · obtain ⟨run, hrun, hafter⟩ := hsound.after_call hother
      have hcallback := hsound.getElem?_asked hrun
      rw [hafter, List.mem_append, List.mem_singleton, Prod.mk.injEq, Deed.call.injEq]
      refine or_congr_right ⟨?_, ?_⟩
      · rintro ⟨rfl, rfl⟩
        exact ⟨rfl, hother, hcallback⟩
      · rintro ⟨rfl, _, hsame⟩
        exact ⟨rfl, Option.some.inj (hsame.symm.trans hcallback)⟩
    · rw [Watch.after, if_neg hother]
      refine ⟨.inl, ?_⟩
      rintro (hcalled | ⟨hdeed, hplace, _⟩)
      · exact hcalled
      · cases hdeed
        exact absurd hplace hother
  | comeBack other => simp [Watch.after]

end Sound

theorem sound_run (deeds : List (Deed τ κ)) : Sound deeds (run deeds) := by
  induction deeds using List.reverseRecOn with
  | nil => exact Sound.nil
  | append_singleton early last ih =>
    rw [run_concat]
    exact ih.after last

variable {callback : κ} {place : Nat}

/-- The pending run of a callback is the last one asked for, unless it has called. -/
theorem mem_pending_run_iff (deeds : List (Deed τ κ)) :
    (callback, place) ∈ (run deeds).timer.pending ↔
      Stands deeds callback place ∧ (place, callback) ∉ (run deeds).calls := by
  have hsound := sound_run deeds
  rw [hsound.tidy.mem_pending, hsound.isArmed_iff, hsound.mem_calls]
  refine and_congr_right fun hstands => not_congr ?_
  exact iff_self_and.mpr fun _ => hstands.getElem?_asked

/-- What was called stays so. -/
theorem mem_calls_append {early : List (Deed τ κ)} (hcall : (place, callback) ∈ (run early).calls)
    (late : List (Deed τ κ)) : (place, callback) ∈ (run (early ++ late)).calls := by
  induction late using List.reverseRecOn with
  | nil => rwa [List.append_nil]
  | append_singleton rest last ih =>
    rw [← List.append_assoc, run_concat, (sound_run (early ++ rest)).mem_calls_after]
    exact .inl ih

/-- A run that has gone off calls when it gets hold of the timer. -/
theorem exists_mem_calls_of_off {early : List (Deed τ κ)} (hplace : place ∈ (run early).off)
    (late : List (Deed τ κ)) :
    ∃ callback, (place, callback) ∈ (run (early ++ .call place :: late)).calls := by
  have hsound := sound_run early
  have hasked : place < (asked early).length :=
    hsound.length_asked ▸ (hsound.off place hplace).1
  refine ⟨(asked early)[place], ?_⟩
  rw [List.append_cons]
  refine mem_calls_append ?_ late
  rw [run_concat, hsound.mem_calls_after]
  exact .inr ⟨rfl, hplace, List.getElem?_eq_getElem hasked⟩

section Ended

variable {early : List (Deed τ κ)} {deed : Deed τ κ}

/-- A run that was replaced or cancelled is not armed again. -/
theorem not_isArmed_of_ended (hpending : (callback, place) ∈ (run early).timer.pending)
    (hends : deed.Ends callback) (late : List (Deed τ κ)) (other : κ) :
    ¬ IsArmed (run (early ++ deed :: late)).timer.runs place other := by
  have hsound := sound_run early
  have harmed := (hsound.tidy.mem_pending callback place).mp hpending
  have hplace : place < (asked early).length := hsound.length_asked ▸ harmed.lt_length
  intro hagain
  have hstands := ((sound_run _).isArmed_iff place other).mp hagain
  rw [List.append_cons] at hstands
  have hafter : place < (asked (early ++ [deed])).length := by
    rw [asked_concat, List.length_append]
    exact Nat.lt_add_right _ hplace
  obtain ⟨_, _, _, hlength⟩ | ⟨hkept, hbefore⟩ :=
    stands_concat_iff.mp (hstands.1.of_append hafter)
  · exact hplace.ne hlength
  · have hother : IsArmed (run early).timer.runs place other :=
      (hsound.isArmed_iff place other).mpr
        ⟨hbefore, ((hsound.isArmed_iff place callback).mp harmed).2⟩
    exact hkept (hother.callback_eq harmed ▸ hends)

/-- A run that was replaced or cancelled calls exactly if it had gone off. -/
theorem called_iff_of_ended (hpending : (callback, place) ∈ (run early).timer.pending)
    (hends : deed.Ends callback) (late : List (Deed τ κ)) :
    ((place, callback) ∈ (run (early ++ deed :: late)).calls ↔
        place ∈ (run early).off ∧ .call place ∈ late) ∧
      (place ∈ (run (early ++ deed :: late)).off ↔
        place ∈ (run early).off ∧ .call place ∉ late) := by
  have hcalled := ((mem_pending_run_iff early).mp hpending).2
  have hcall : deed ≠ .call place := by
    rintro rfl
    exact hends
  have hgoOff : deed ≠ .goOff place := by
    rintro rfl
    exact hends
  -- It cannot go off again, so all that follows counts only for whether it still gets to call.
  induction late using List.reverseRecOn with
  | nil =>
    rw [run_concat, (sound_run early).mem_calls_after, (sound_run early).mem_off_after]
    simp [hcalled, hcall, hgoOff]
  | append_singleton rest last ih =>
    have hsound := sound_run (early ++ deed :: rest)
    have hgone : ¬ ∃ other, IsArmed (run (early ++ deed :: rest)).timer.runs place other :=
      fun ⟨other, harmed⟩ => not_isArmed_of_ended hpending hends rest other harmed
    have hasked : (asked (early ++ deed :: rest))[place]? = some callback := by
      have hbefore := ((mem_pending_run_iff early).mp hpending).1.getElem?_asked
      rwa [asked_append, List.getElem?_append_left (List.getElem?_eq_some_iff.mp hbefore).1]
    rw [← List.cons_append, ← List.append_assoc, run_concat, hsound.mem_calls_after,
      hsound.mem_off_after, ih.1, ih.2]
    simp only [hgone, hasked, List.mem_append, List.mem_singleton, and_true, and_false, or_false,
      @eq_comm _ last]
    tauto

end Ended

/-- One run of each callback at a time. -/
structure OneEach (deeds : List (Deed τ κ)) : Prop where
  /-- The pending runs are the armed ones, one for each callback at most. -/
  tidy : (run deeds).timer.Tidy
  single : ((run deeds).timer.pending.map Prod.fst).Nodup
  /-- Each run calls once at most, and what it was asked to; and it calls if it has gone off and
      gets hold of the timer. -/
  once : ((run deeds).calls.map Prod.fst).Nodup
  own : ∀ place callback, (place, callback) ∈ (run deeds).calls →
    (asked deeds)[place]? = some callback
  served : ∀ early late place, deeds = early ++ .call place :: late → place ∈ (run early).off →
    ∃ callback, (place, callback) ∈ (run deeds).calls
  /-- A run that was replaced or cancelled while it was pending calls its callback exactly if it
      had gone off by then. -/
  ended : ∀ early deed late callback place, deeds = early ++ deed :: late →
    (callback, place) ∈ (run early).timer.pending → deed.Ends callback →
      ((place, callback) ∈ (run deeds).calls ↔ place ∈ (run early).off ∧ .call place ∈ late)
  /-- The last run asked for of a callback is the pending one until it calls or is cancelled. -/
  latest : ∀ callback place, (callback, place) ∈ (run deeds).timer.pending ↔
    Stands deeds callback place ∧ (place, callback) ∉ (run deeds).calls
  /-- A run that is asked for while its callback is being called is pending when that call comes
      back, unless it was replaced or cancelled, or has called, by then. -/
  renewed : ∀ early now moment middle callback place,
    deeds = early ++ .schedule now moment callback :: (middle ++ [.comeBack place]) →
      (place, callback) ∈ (run early).calls → place ∈ (run early).inside →
        (∀ deed ∈ middle, ¬ deed.Ends callback) →
          ((asked early).length, callback) ∉ (run deeds).calls →
            (callback, (asked early).length) ∈ (run deeds).timer.pending

theorem oneEach_run (deeds : List (Deed τ κ)) : OneEach deeds where
  tidy := (sound_run deeds).tidy
  single := (sound_run deeds).pending_nodup
  once := (sound_run deeds).calls_nodup
  own place callback hcall := (((sound_run deeds).mem_calls place callback).mp hcall).2
  served early late place hdeeds hplace := by
    subst hdeeds
    exact exists_mem_calls_of_off hplace late
  ended early deed late callback place hdeeds hpending hends := by
    subst hdeeds
    exact (called_iff_of_ended hpending hends late).1
  latest callback place := mem_pending_run_iff deeds
  renewed early now moment middle callback place hdeeds _ _ hkept hcalled := by
    refine (mem_pending_run_iff deeds).mpr ⟨?_, hcalled⟩
    refine ⟨early, now, moment, middle ++ [.comeBack place], hdeeds, rfl, fun deed hdeed => ?_⟩
    obtain hdeed | hdeed := List.mem_append.mp hdeed
    · exact hkept deed hdeed
    · rw [List.mem_singleton.mp hdeed]
      exact id

/-- A callback that asks for itself while it is being called is still to be called after it. -/
example : (run [.schedule 0 5 (), .goOff 0, .call 0, .schedule 5 10 (), .comeBack 0] :
    Watch Int Unit).timer.pending = [((), 1)] := by decide

/-- A run that has gone off calls its callback though it was cancelled, or replaced, before that. -/
theorem exists_called_though_ended : ∃ early late : List (Deed Int Unit),
    ((), 0) ∈ (run early).timer.pending ∧
      (0, ()) ∈ (run (early ++ .cancelAll :: late)).calls ∧
        (0, ()) ∈ (run (early ++ .schedule 0 9 () :: late)).calls :=
  ⟨[.schedule 0 5 (), .goOff 0], [.call 0], by decide, by decide, by decide⟩

end Run

end AllowPolicy.Timer
