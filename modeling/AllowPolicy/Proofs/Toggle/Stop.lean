import AllowPolicy.Proofs.Toggle.Crew

namespace AllowPolicy.Toggle

variable {ι τ η ω : Type}

/-- The effects that a thread had, among those of all. -/
def effectsOf [DecidableEq ι] (thread : ι) (effects : List (ι × Effect)) : List Effect :=
  (effects.filter (·.1 = thread)).map (·.2)

/-- How often there was an effect. -/
def tally (effect : Effect) (effects : List (ι × Effect)) : Nat := effects.countP (·.2 = effect)

theorem effectsOf_append [DecidableEq ι] (thread : ι) (early late : List (ι × Effect)) :
    effectsOf thread (early ++ late) = effectsOf thread early ++ effectsOf thread late := by
  simp [effectsOf]

theorem effectsOf_eq_nil_iff [DecidableEq ι] {effects : List (ι × Effect)} :
    (∀ thread, effectsOf thread effects = []) ↔ effects = [] := by
  constructor
  · intro hnone
    cases effects with
    | nil => rfl
    | cons effect rest => simpa [effectsOf] using hnone effect.1
  · rintro rfl thread
    rfl

theorem tally_append (effect : Effect) (early late : List (ι × Effect)) :
    tally effect (early ++ late) = tally effect early + tally effect late :=
  List.countP_append

namespace Crew

variable [DecidableEq ι]

/-- From one crew to another, at a stopped toggle, these were the effects: each thread had the first
    of those that were ahead of it, and the others are still ahead. -/
structure Finishes (before after : Crew ι τ η ω) (effects : List (ι × Effect)) : Prop where
  stopped : after.machine.toggle.stopped = true
  effects_eq : after.effects = before.effects ++ effects
  ahead : ∀ thread,
    effectsOf thread effects ++ (after.stage thread).ahead = (before.stage thread).ahead
  enabled : after.machine.toggle.enabled =
    (fun now => !now)^[tally .flip effects] before.machine.toggle.enabled
  firings : after.machine.toggle.firings = before.machine.toggle.firings + tally .flip effects
  announced : after.machine.announced = before.machine.announced + tally .announce effects
  runs : after.machine.timer.runs.length =
    before.machine.timer.runs.length + tally .schedule effects
  pending : before.machine.timer.pending = [] → tally .schedule effects = 0 →
    after.machine.timer.pending = []

theorem Finishes.trans {first second third : Crew ι τ η ω} {early late : List (ι × Effect)}
    (hfirst : Finishes first second early) (hsecond : Finishes second third late) :
    Finishes first third (early ++ late) where
  stopped := hsecond.stopped
  effects_eq := by rw [hsecond.effects_eq, hfirst.effects_eq, List.append_assoc]
  ahead thread := by
    rw [effectsOf_append, List.append_assoc, hsecond.ahead, hfirst.ahead]
  enabled := by
    rw [hsecond.enabled, hfirst.enabled, ← Function.iterate_add_apply, tally_append, Nat.add_comm]
  firings := by rw [hsecond.firings, hfirst.firings, tally_append, Nat.add_assoc]
  announced := by rw [hsecond.announced, hfirst.announced, tally_append, Nat.add_assoc]
  runs := by rw [hsecond.runs, hfirst.runs, tally_append, Nat.add_assoc]
  pending hnone hnever := by
    rw [tally_append, Nat.add_eq_zero_iff] at hnever
    exact hsecond.pending (hfirst.pending hnone hnever.1) hnever.2

/-- There is no effect if none was ahead of any thread. -/
theorem Finishes.effects_eq_nil {before after : Crew ι τ η ω} {effects : List (ι × Effect)}
    (hfinishes : Finishes before after effects)
    (hahead : ∀ thread, (before.stage thread).ahead = []) : effects = [] :=
  effectsOf_eq_nil_iff.mp fun thread =>
    (List.append_eq_nil_iff.mp ((hfinishes.ahead thread).trans (hahead thread))).1

/-- A move without an effect. -/
theorem finishes_quiet {before after : Crew ι τ η ω}
    (hstopped : before.machine.toggle.stopped = true)
    (htoggle : after.machine.toggle = before.machine.toggle)
    (heffects : after.effects = before.effects)
    (hahead : ∀ thread, (after.stage thread).ahead = (before.stage thread).ahead)
    (hannounced : after.machine.announced = before.machine.announced)
    (hruns : after.machine.timer.runs.length = before.machine.timer.runs.length)
    (hpending : before.machine.timer.pending = [] → after.machine.timer.pending = []) :
    Finishes before after [] where
  stopped := by rw [htoggle, hstopped]
  effects_eq := by rw [heffects, List.append_nil]
  ahead := hahead
  enabled := congrArg Toggle.enabled htoggle
  firings := congrArg Toggle.firings htoggle
  announced := hannounced
  runs := hruns
  pending hnone _ := hpending hnone

theorem ahead_goTo {crew : Crew ι τ η ω} {thread : ι} {stage : Stage η}
    (hsame : stage.ahead = (crew.stage thread).ahead) (other : ι) :
    ((crew.goTo thread stage).stage other).ahead = (crew.stage other).ahead := by
  by_cases hother : other = thread
  · rw [hother, stage_goTo, Function.update_self, hsame]
  · rw [stage_goTo, Function.update_of_ne hother]

theorem ahead_affect {crew : Crew ι τ η ω} {thread : ι} {effect : Effect}
    {machine : Machine τ η ω} {stage : Stage η}
    (hahead : (crew.stage thread).ahead = effect :: stage.ahead) (other : ι) :
    effectsOf other [(thread, effect)] ++
        ((crew.affect thread effect machine stage).stage other).ahead =
      (crew.stage other).ahead := by
  by_cases hother : other = thread
  · subst hother
    simp [effectsOf, hahead]
  · simp [effectsOf, hother, Ne.symm hother]

variable [Add τ] [Sub τ] [LT τ] [DecidableLT τ] [OfNat τ 0]
  {handlers : Handlers τ η ω} {crew : Crew ι τ η ω}

theorem finishes_advance (hstopped : crew.machine.toggle.stopped = true) (thread : ι) :
    ∃ effects, Finishes crew (crew.advance handlers thread) effects := by
  unfold advance
  cases hstage : crew.stage thread with
  | idle => exact ⟨[], finishes_quiet hstopped rfl rfl (fun _ => rfl) rfl rfl id⟩
  | called =>
    have hahead : (Stage.idle : Stage η).ahead = (crew.stage thread).ahead := by rw [hstage]; rfl
    rw [if_pos hstopped]
    exact ⟨[], finishes_quiet hstopped rfl rfl (ahead_goTo hahead) rfl rfl id⟩
  | flipping =>
    exact ⟨[(thread, .flip)],
      { stopped := hstopped
        effects_eq := rfl
        ahead := ahead_affect (by rw [hstage]; rfl)
        enabled := rfl
        firings := rfl
        announced := rfl
        runs := rfl
        pending := fun hnone _ => hnone }⟩
  | announcing =>
    exact ⟨[(thread, .announce)],
      { stopped := hstopped
        effects_eq := rfl
        ahead := ahead_affect (by rw [hstage]; rfl)
        enabled := rfl
        firings := rfl
        announced := rfl
        runs := rfl
        pending := fun hnone _ => hnone }⟩
  | calling rest =>
    cases rest with
    | nil =>
      have hahead : (Stage.scheduling : Stage η).ahead = (crew.stage thread).ahead := by
        rw [hstage]; rfl
      exact ⟨[], finishes_quiet hstopped rfl rfl (ahead_goTo hahead) rfl rfl id⟩
    | cons handler rest =>
      have hahead : (Stage.calling rest).ahead = (crew.stage thread).ahead := by rw [hstage]; rfl
      exact ⟨[], finishes_quiet hstopped rfl rfl (ahead_goTo hahead) rfl rfl id⟩
  | scheduling =>
    exact ⟨[(thread, .schedule)],
      { stopped := hstopped
        effects_eq := rfl
        ahead := ahead_affect (by rw [hstage]; rfl)
        enabled := rfl
        firings := rfl
        announced := rfl
        runs := Timer.length_schedule ..
        pending := fun _ hnever => by cases hnever }⟩

theorem finishes_perform (handlers : Handlers τ η ω)
    (hstopped : crew.machine.toggle.stopped = true) {move : Move ι τ η ω}
    (hmove : move.isStart = false) :
    ∃ effects, Finishes crew (crew.perform handlers move) effects := by
  cases move with
  | start thread => cases hmove
  | stop =>
    have htoggle : { crew.machine.toggle with stopped := true } = crew.machine.toggle := by
      rw [← hstopped]
    exact ⟨[], finishes_quiet hstopped htoggle rfl (fun _ => rfl) rfl rfl id⟩
  | cancelAll =>
    exact ⟨[], finishes_quiet hstopped rfl rfl (fun _ => rfl) rfl (Timer.length_cancelAll _)
      fun _ => rfl⟩
  | fire thread =>
    rw [perform]
    split
    · next hidle =>
      have hahead : (Stage.called : Stage η).ahead = (crew.stage thread).ahead := by
        rw [Stage.eq_idle hidle]; rfl
      exact ⟨[], finishes_quiet hstopped rfl rfl (ahead_goTo hahead) rfl rfl id⟩
    · exact ⟨[], finishes_quiet hstopped rfl rfl (fun _ => rfl) rfl rfl id⟩
  | elapse thread place late =>
    have hruns := Timer.length_elapse crew.machine.timer place late
    have hpending : crew.machine.timer.pending = [] → _ :=
      fun hnone => Timer.pending_elapse hnone place late
    rw [perform]
    split
    · next hidle =>
      simp only
      split
      · have hahead : (Stage.called : Stage η).ahead = (crew.stage thread).ahead := by
          rw [Stage.eq_idle hidle]; rfl
        exact ⟨[], finishes_quiet hstopped rfl rfl (ahead_goTo hahead) rfl hruns hpending⟩
      · exact ⟨[], finishes_quiet hstopped rfl rfl (fun _ => rfl) rfl hruns hpending⟩
    · exact ⟨[], finishes_quiet hstopped rfl rfl (fun _ => rfl) rfl rfl id⟩
  | step thread => exact finishes_advance hstopped thread
  | meanwhile around => exact ⟨[], finishes_quiet hstopped rfl rfl (fun _ => rfl) rfl rfl id⟩

/-- Nobody starts the toggle. -/
def Startless (moves : List (Move ι τ η ω)) : Prop := ∀ move ∈ moves, move.isStart = false

theorem finishes_performAll (handlers : Handlers τ η ω)
    (hstopped : crew.machine.toggle.stopped = true) {moves : List (Move ι τ η ω)}
    (hmoves : Startless moves) :
    ∃ effects, Finishes crew (crew.performAll handlers moves) effects := by
  induction moves generalizing crew with
  | nil => exact ⟨[], finishes_quiet hstopped rfl rfl (fun _ => rfl) rfl rfl id⟩
  | cons move rest ih =>
    obtain ⟨hmove, hrest⟩ := List.forall_mem_cons.mp hmoves
    obtain ⟨first, hfirst⟩ := finishes_perform handlers hstopped hmove
    obtain ⟨others, hothers⟩ := ih hfirst.stopped hrest
    exact ⟨first ++ others, hfirst.trans hothers⟩

/-- A thread with effects ahead comes to schedule a firing in the end. -/
theorem schedule_mem_ahead {stage : Stage η} (hahead : stage.ahead ≠ []) :
    Effect.schedule ∈ stage.ahead := by
  cases stage <;> simp_all [Stage.ahead]

/-- Every thread can come to an end by itself. -/
theorem exists_ends (handlers : Handlers τ η ω) (crew : Crew ι τ η ω) (thread : ι) :
    ∃ machine, crew.Ends handlers thread machine := by
  cases hstage : crew.stage thread with
  | idle => exact ⟨_, ends_idle hstage⟩
  | called => exact ⟨_, ends_called hstage⟩
  | flipping =>
    have hnext : (crew.advance handlers thread).stage thread = .announcing := by
      rw [advance, hstage]
      exact Function.update_self ..
    exact ⟨_, .of_step (ends_announcing hnext)⟩
  | announcing => exact ⟨_, ends_announcing hstage⟩
  | calling rest => exact ⟨_, ends_calling hstage⟩
  | scheduling => exact ⟨_, ends_scheduling hstage⟩

theorem scheduled_or_same (handlers : Handlers τ η ω) {move : Move ι τ η ω}
    (hkeeps : move.keepsRuns = true) (crew : Crew ι τ η ω) :
    (crew.perform handlers move).machine.timer.pending ≠ [] ∨
      ((crew.perform handlers move).machine.timer.pending = crew.machine.timer.pending ∧
        tally .schedule (crew.perform handlers move).effects = tally .schedule crew.effects) := by
  cases move with
  | start thread =>
    rw [perform]
    split <;> exact .inr ⟨rfl, rfl⟩
  | stop => exact .inr ⟨rfl, rfl⟩
  | cancelAll => cases hkeeps
  | fire thread =>
    rw [perform]
    split <;> exact .inr ⟨rfl, rfl⟩
  | elapse thread place late => cases hkeeps
  | step thread =>
    rw [perform, advance]
    split
    · exact .inr ⟨rfl, rfl⟩
    · exact .inr ⟨rfl, rfl⟩
    · exact .inr ⟨rfl, tally_append ..⟩
    · exact .inr ⟨rfl, tally_append ..⟩
    · exact .inr ⟨rfl, rfl⟩
    · exact .inr ⟨rfl, rfl⟩
    · exact .inl (Timer.pending_schedule_ne_nil _ _ _ _)
  | meanwhile around => exact .inr ⟨rfl, rfl⟩

/-- What was scheduled stays pending as long as no run comes due and nobody cancels it. -/
theorem pending_of_scheduled {moves : List (Move ι τ η ω)}
    (hkeeps : ∀ move ∈ moves, move.keepsRuns = true)
    (hpending : crew.machine.timer.pending ≠ [] ∨
      tally .schedule (crew.performAll handlers moves).effects ≠ tally .schedule crew.effects) :
    (crew.performAll handlers moves).machine.timer.pending ≠ [] := by
  induction moves generalizing crew with
  | nil => exact hpending.resolve_right (absurd rfl)
  | cons move rest ih =>
    obtain ⟨hmove, hrest⟩ := List.forall_mem_cons.mp hkeeps
    refine ih hrest ?_
    rcases scheduled_or_same handlers hmove crew with hscheduled | ⟨hsame, htally⟩
    · exact .inl hscheduled
    · rwa [hsame, htally]

theorem tidy_perform (htidy : crew.machine.timer.Tidy) (move : Move ι τ η ω) :
    (crew.perform handlers move).machine.timer.Tidy := by
  cases move with
  | start thread =>
    rw [perform]
    split <;> exact htidy
  | stop => exact htidy
  | cancelAll => exact htidy.cancelAll
  | fire thread =>
    rw [perform]
    split <;> exact htidy
  | elapse thread place late =>
    have helapsed := htidy.elapse place late
    rw [perform]
    split
    · simp only
      split <;> exact helapsed
    · exact htidy
  | step thread =>
    rw [perform, advance]
    split <;> first | exact htidy | exact htidy.schedule _ _ _
  | meanwhile around => exact htidy

theorem tidy_performAll (htidy : crew.machine.timer.Tidy) (moves : List (Move ι τ η ω)) :
    (crew.performAll handlers moves).machine.timer.Tidy := by
  induction moves generalizing crew with
  | nil => exact htidy
  | cons move rest ih => exact ih (tidy_perform htidy move)

theorem performAll_append (handlers : Handlers τ η ω) (crew : Crew ι τ η ω)
    (early late : List (Move ι τ η ω)) :
    crew.performAll handlers (early ++ late) =
      (crew.performAll handlers early).performAll handlers late := List.foldl_append

/-- A stop is final exactly if no thread has effects ahead of it. -/
theorem final_iff (hstopped : crew.machine.toggle.stopped = true) :
    (∀ moves, Startless moves → (crew.performAll handlers moves).effects = crew.effects) ↔
      ∀ thread, (crew.stage thread).ahead = [] := by
  constructor
  · intro hfinal thread
    obtain ⟨machine, count, _, hidle⟩ := exists_ends handlers crew thread
    have hmoves : Startless (List.replicate count (.step thread) : List (Move ι τ η ω)) := by
      intro move hmove
      rw [List.eq_of_mem_replicate hmove]
      rfl
    obtain ⟨effects, hfinishes⟩ := finishes_performAll handlers hstopped hmoves
    have hnone := hfinishes.effects_eq.symm.trans (hfinal _ hmoves)
    have hahead := hfinishes.ahead thread
    rw [List.append_right_eq_self.mp hnone, hidle] at hahead
    exact hahead.symm
  · intro hahead moves hmoves
    obtain ⟨effects, hfinishes⟩ := finishes_performAll handlers hstopped hmoves
    rw [hfinishes.effects_eq, hfinishes.effects_eq_nil hahead, List.append_nil]

/-- Once all runs are cancelled none is pending, unless a thread had one ahead of it to schedule. -/
theorem pending_closed (hstopped : crew.machine.toggle.stopped = true)
    (hnone : crew.machine.timer.pending = []) {moves : List (Move ι τ η ω)}
    (hmoves : Startless moves) :
    let now := crew.performAll handlers moves
    ((∀ thread, (crew.stage thread).ahead = []) → now.machine.timer.pending = []) ∧
      ((∀ move ∈ moves, move.keepsRuns = true) → (∀ thread, now.stage thread = .idle) →
        (now.machine.timer.pending = [] ↔ ∀ thread, (crew.stage thread).ahead = [])) := by
  intro now
  obtain ⟨effects, hfinishes⟩ := finishes_performAll handlers hstopped hmoves
  have hquiet (hahead : ∀ thread, (crew.stage thread).ahead = []) :
      now.machine.timer.pending = [] := by
    rw [hfinishes.effects_eq_nil hahead] at hfinishes
    exact hfinishes.pending hnone rfl
  refine ⟨hquiet, fun hkeeps hidle => ⟨fun hpending thread => ?_, hquiet⟩⟩
  by_contra hahead
  -- What was ahead of the thread is done, and a firing is scheduled among it.
  have hdone := hfinishes.ahead thread
  rw [show (crew.performAll handlers moves).stage thread = .idle from hidle thread] at hdone
  have hscheduled : Effect.schedule ∈ effectsOf thread effects := by
    rw [← List.append_nil (effectsOf thread effects)]
    exact hdone ▸ schedule_mem_ahead hahead
  have htally : 0 < tally .schedule effects := by
    obtain ⟨entry, hentry, hschedule⟩ := List.mem_map.mp hscheduled
    exact List.countP_pos_iff.mpr ⟨entry, (List.mem_filter.mp hentry).1, decide_eq_true hschedule⟩
  refine pending_of_scheduled hkeeps (.inr ?_) hpending
  rw [hfinishes.effects_eq, tally_append]
  omega

theorem stopped_run (handlers : Handlers τ η ω) (enabled : Bool) (interval : τ)
    (around : Around τ η ω) (early : List (Move ι τ η ω)) :
    (run handlers enabled interval around (early ++ [.stop])).machine.toggle.stopped = true := by
  rw [run, performAll_append]
  rfl

/-- After a stop and until the next start, a firing has no effect unless it has looked before the
    stop whether the toggle was stopped. Such a firing, and a start that is under way, goes on to
    its end: it has exactly the effects that were ahead of it, each once. So a stop is final exactly
    if nobody is past that look. Once all runs are cancelled none is pending, and none will be,
    exactly if nobody was past it then; whatever comes due has no effect. -/
theorem stop_final_iff (handlers : Handlers τ η ω) (enabled : Bool) (interval : τ)
    (around : Around τ η ω) (early : List (Move ι τ η ω)) :
    let stopped := run handlers enabled interval around (early ++ [.stop])
    (∀ late, Startless late →
        ∃ effects, Finishes stopped (stopped.performAll handlers late) effects) ∧
      ((∀ late, Startless late →
          (stopped.performAll handlers late).effects = stopped.effects) ↔
        ∀ thread, (stopped.stage thread).ahead = []) ∧
      ∀ mid, Startless mid →
        let closed := stopped.performAll handlers (mid ++ [.cancelAll])
        closed.machine.timer.pending = [] ∧
          ∀ late, Startless late →
            let now := closed.performAll handlers late
            now.machine.timer.Tidy ∧
              ((∀ thread, (closed.stage thread).ahead = []) → now.machine.timer.pending = []) ∧
              ((∀ move ∈ late, move.keepsRuns = true) → (∀ thread, now.stage thread = .idle) →
                (now.machine.timer.pending = [] ↔
                  ∀ thread, (closed.stage thread).ahead = [])) := by
  intro stopped
  have hstopped := stopped_run handlers enabled interval around early
  refine ⟨fun late hlate => finishes_performAll handlers hstopped hlate, final_iff hstopped, ?_⟩
  intro mid hmid closed
  have hmoves : Startless (mid ++ [.cancelAll]) := by
    intro move hmove
    rcases List.mem_append.mp hmove with hmove | hmove
    · exact hmid move hmove
    · rw [List.mem_singleton.mp hmove]
      rfl
  obtain ⟨effects, hfinishes⟩ := finishes_performAll handlers hstopped hmoves
  have hnone : closed.machine.timer.pending = [] := by
    simp only [closed, performAll_append]
    rfl
  refine ⟨hnone, fun late hlate => ⟨?_, pending_closed hfinishes.stopped hnone hlate⟩⟩
  exact tidy_performAll (tidy_performAll (tidy_performAll Timer.tidy_empty _) _) late

/-- A run has come due, but has not looked yet whether the toggle was stopped. -/
theorem stop_final_iff_called :
    let quiet : Handlers ℤ Unit Unit := fun _ _ _ _ => pure (.ok ())
    let around : Around ℤ Unit Unit :=
      { bus := ⟨[⟨rulesChanged, ()⟩]⟩, clock := 100, timerClock := 100, rest := () }
    let early : List (Move Bool ℤ Unit Unit) := [.start false, .step false, .elapse false 0 false]
    let stopped := run quiet true 5 around (early ++ [.stop])
    let closed := stopped.performAll quiet ([] ++ [.cancelAll])
    let now := closed.performAll quiet [.fire true, .step false, .step true]
    (∃ effects, Finishes stopped (stopped.performAll quiet [.step false]) effects) ∧
      (∀ late, Startless late →
        (stopped.performAll quiet late).effects = stopped.effects) ∧
      now.machine.timer.Tidy ∧ now.machine.timer.pending = [] := by
  intro quiet around early stopped closed now
  have hfinal := stop_final_iff quiet true 5 around early
  have hahead : ∀ thread, (stopped.stage thread).ahead = [] := by decide
  have hclosed : ∀ thread, (closed.stage thread).ahead = [] := by decide
  obtain ⟨htidy, hpending, _⟩ := (hfinal.2.2 [] (by simp [Startless])).2
    [.fire true, .step false, .step true] (by simp [Startless, Move.isStart])
  exact ⟨hfinal.1 [.step false] (by simp [Startless, Move.isStart]), hfinal.2.1.mpr hahead, htidy,
    hpending hclosed⟩

end Crew

end AllowPolicy.Toggle
