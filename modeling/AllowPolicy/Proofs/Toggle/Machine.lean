import AllowPolicy.Proofs.Bus.Delivery
import AllowPolicy.Toggle
import AllowPolicy.Proofs.Timer.Pending
import Mathlib.Algebra.Group.Nat.Even
import Mathlib.Algebra.Order.Group.Int

namespace AllowPolicy.Toggle

/-- What is around a toggle: the bus, the clocks that it and its timer go by, and all the rest. -/
structure Around (τ η ω : Type) where
  bus : Bus η
  clock : τ
  timerClock : τ
  rest : ω

/-- What the handlers of the bus do. They may look at the toggle and at its timer and change what is
    around them, the subscriptions and the clocks as well; they do not turn to the toggle. -/
abbrev Handlers (τ η ω : Type) :=
  η → String → Toggle τ → Timer τ Unit → Act (Around τ η ω) (Outcome Unit)

/-- A handler is called for an announcement, and sees the switch in a position. -/
structure Call (η : Type) where
  announcement : Nat
  handler : η
  enabled : Bool

/-- A toggle on a timer of its own, and what it announced so far. -/
structure Machine (τ η ω : Type) where
  toggle : Toggle τ
  around : Around τ η ω
  timer : Timer τ Unit := {}
  announced : Nat := 0
  calls : List (Call η) := []

namespace Machine

variable {τ η ω : Type}

/-- Calls a handler. -/
def call (handlers : Handlers τ η ω) (handler : η) (event : String) :
    Act (Machine τ η ω) (Outcome Unit) := do
  let machine ← get
  let (result, around) ←
    ((handlers handler event machine.toggle machine.timer).run machine.around : Logged _)
  let call : Call η := ⟨machine.announced, handler, machine.toggle.enabled⟩
  set { machine with around, calls := machine.calls ++ [call] }
  pure result

/-- Every handler is called and sees the switch in the position that it has then. -/
theorem run_deliver (handlers : Handlers τ η ω) (event : String) (called : List η)
    (machine : Machine τ η ω) :
    ∃ around, ((Bus.deliver (call handlers · event) event called).run machine).value.2 =
      { machine with
        around
        calls := machine.calls ++
          called.map fun handler => ⟨machine.announced, handler, machine.toggle.enabled⟩ } := by
  induction called generalizing machine with
  | nil => exact ⟨machine.around, by simp [Bus.deliver]⟩
  | cons handler others ih =>
    rw [Bus.run_deliver_cons]
    obtain ⟨around, hothers⟩ := ih ((call handlers handler event).run machine).value.2
    refine ⟨around, hothers.trans ?_⟩
    simp [call]

/-- The switch goes back and forth with the firings, each of them is announced once, and the
    handlers that are called then see the switch in its new position. -/
structure Sound (enabled : Bool) (interval : τ) (machine : Machine τ η ω) : Prop where
  tidy : machine.timer.Tidy
  interval : machine.toggle.interval = interval
  parity : machine.toggle.enabled = enabled ↔ Even machine.toggle.firings
  announced : machine.announced = machine.toggle.firings
  heard : ∀ call ∈ machine.calls, (call.enabled = enabled ↔ Even call.announcement)

theorem sound_begin (enabled : Bool) (interval : τ) (around : Around τ η ω) :
    Sound enabled interval ({ toggle := { enabled, interval }, around } : Machine τ η ω) where
  tidy := Timer.tidy_empty
  interval := rfl
  parity := iff_of_true rfl Even.zero
  announced := rfl
  heard _ hmem := absurd hmem List.not_mem_nil

variable {enabled : Bool} {interval : τ} {machine : Machine τ η ω}

theorem Sound.onTimer (hsound : Sound enabled interval machine) {timer : Timer τ Unit}
    (htidy : timer.Tidy) : Sound enabled interval { machine with timer } :=
  ⟨htidy, hsound.interval, hsound.parity, hsound.announced, hsound.heard⟩

theorem not_eq_iff_even_succ {enabled now : Bool} {n : Nat} (hparity : now = enabled ↔ Even n) :
    (!now) = enabled ↔ Even (n + 1) := by
  rw [Nat.even_add_one, ← hparity]
  cases now <;> cases enabled <;> simp

variable [Add τ] [Sub τ] [LT τ] [DecidableLT τ] [OfNat τ 0]

/-- The toggle tells the time by its own clock, its timer by another. -/
def site (handlers : Handlers τ η ω) : Site (Machine τ η ω) τ where
  toggle := (·.toggle)
  put toggle machine := { machine with toggle }
  now machine := machine.around.clock
  schedule moment := modify fun machine =>
    { machine with timer := machine.timer.schedule machine.around.timerClock moment () }
  announce := do
    modify fun machine => { machine with announced := machine.announced + 1 }
    discard (Bus.publish (·.around.bus) (call handlers) rulesChanged)

end Machine

/-- What happens to a toggle and its timer. -/
inductive Event (τ η ω : Type) where
  | start
  | stop
  | fire
  /-- The delay of a run has passed, soon or long ago. -/
  | elapse (place : Nat) (late : Bool)
  /-- Something happens around: time passes, handlers come and go. -/
  | meanwhile (around : Around τ η ω)

namespace Machine

variable {τ η ω : Type} [Add τ] [Sub τ] [LT τ] [DecidableLT τ] [OfNat τ 0]

def perform (handlers : Handlers τ η ω) : Event τ η ω → Act (Machine τ η ω) Unit
  | .start => discard (site handlers).start
  | .stop => (site handlers).stop
  | .fire => (site handlers).fire
  | .elapse place late => do
    let machine ← get
    let (timer, due) := machine.timer.elapse place late
    set { machine with timer }
    if due.isSome then (site handlers).fire
  | .meanwhile around => modify fun machine => { machine with around }

def after (handlers : Handlers τ η ω) (machine : Machine τ η ω) (event : Event τ η ω) :
    Machine τ η ω := ((perform handlers event).run machine).value.2

/-- The machine after events in some order, from a toggle that was just made. -/
def run (handlers : Handlers τ η ω) (enabled : Bool) (interval : τ) (around : Around τ η ω)
    (events : List (Event τ η ω)) : Machine τ η ω :=
  events.foldl (after handlers) { toggle := { enabled, interval }, around }

theorem after_start (handlers : Handlers τ η ω) (machine : Machine τ η ω) :
    machine.after handlers .start =
      let moment := machine.around.clock + machine.toggle.interval
      { machine with
        toggle := { machine.toggle with stopped := false, next := some moment }
        timer := machine.timer.schedule machine.around.timerClock moment () } := rfl

theorem run_fire_stopped (handlers : Handlers τ η ω) (machine : Machine τ η ω)
    (hstopped : machine.toggle.stopped = true) :
    (perform handlers .fire).run machine = pure ((), machine) := by
  change
    (if machine.toggle.stopped then (pure () : Act (Machine τ η ω) Unit) else _).run machine = _
  rw [if_pos hstopped]
  rfl

theorem after_fire_stopped (handlers : Handlers τ η ω) (machine : Machine τ η ω)
    (hstopped : machine.toggle.stopped = true) : machine.after handlers .fire = machine := by
  rw [after, run_fire_stopped handlers machine hstopped]
  rfl

/-- An effective firing flips, delivers the announcement and schedules the next. -/
theorem after_fire_going (handlers : Handlers τ η ω) {machine : Machine τ η ω}
    (hgoing : machine.toggle.stopped = false) :
    machine.after handlers .fire =
      ((site handlers).scheduleNext.run
        ((Bus.deliver (call handlers · rulesChanged) rulesChanged
          (machine.around.bus.handlers rulesChanged)).run
            { machine with
              toggle := { machine.toggle.flip with firings := machine.toggle.firings + 1 }
              announced := machine.announced + 1 }).value.2).value.2 := by
  let flipped : Machine τ η ω :=
    { machine with
      toggle := { machine.toggle.flip with firings := machine.toggle.firings + 1 }
      announced := machine.announced + 1 }
  change ((if machine.toggle.stopped then (pure () : Act (Machine τ η ω) Unit) else _).run
    machine).value.2 = _
  rw [if_neg (by simp [hgoing])]
  change ((site handlers).scheduleNext.run
    ((Bus.publish (·.around.bus) (call handlers) rulesChanged).run flipped).value.2).value.2 = _
  rw [Bus.run_publish]

/-- The machine after an effective firing. -/
theorem after_fire (handlers : Handlers τ η ω) {machine : Machine τ η ω}
    (hgoing : machine.toggle.stopped = false) :
    ∃ around : Around τ η ω, machine.after handlers .fire =
      let moment := around.clock + machine.toggle.interval
      { toggle := { machine.toggle with
          enabled := !machine.toggle.enabled
          next := some moment
          firings := machine.toggle.firings + 1 }
        around
        timer := machine.timer.schedule around.timerClock moment ()
        announced := machine.announced + 1
        calls := machine.calls ++ (machine.around.bus.handlers rulesChanged).map fun handler =>
          ⟨machine.announced + 1, handler, !machine.toggle.enabled⟩ } := by
  obtain ⟨around, hdeliver⟩ := run_deliver handlers rulesChanged
    (machine.around.bus.handlers rulesChanged)
    { machine with
      toggle := { machine.toggle.flip with firings := machine.toggle.firings + 1 }
      announced := machine.announced + 1 }
  refine ⟨around, ?_⟩
  rw [after_fire_going handlers hgoing, hdeliver]
  rfl

/-- A run that comes due fires. -/
theorem after_elapse (handlers : Handlers τ η ω) (machine : Machine τ η ω) (place : Nat)
    (late : Bool) :
    machine.after handlers (.elapse place late) =
      let timed : Machine τ η ω := { machine with timer := (machine.timer.elapse place late).1 }
      if (machine.timer.elapse place late).2.isSome then timed.after handlers .fire else timed := by
  rw [after, perform]
  simp only [StateT.run_bind, StateT.run_get, StateT.run_set, Logged.value_bind, Logged.value_pure]
  split <;> rfl

/-- A toggle that goes has exactly one run pending, made for the moment of its next flip. -/
def Awaiting (machine : Machine τ η ω) : Prop :=
  machine.toggle.stopped = false → ∀ moment, machine.toggle.next = some moment →
    ∃ now, machine.timer.Awaits () (Timer.delayUntil now moment)

variable {enabled : Bool} {interval : τ} {machine : Machine τ η ω}

theorem Sound.start (hsound : Sound enabled interval machine) (handlers : Handlers τ η ω) :
    Sound enabled interval (machine.after handlers .start) ∧
      (machine.after handlers .start).Awaiting := by
  refine ⟨⟨hsound.tidy.schedule _ _ _, hsound.interval, hsound.parity, hsound.announced,
    hsound.heard⟩, fun _ _ hnext => ?_⟩
  cases hnext
  exact ⟨_, hsound.tidy.awaits_schedule _ _ _⟩

theorem Sound.fire (hsound : Sound enabled interval machine) (handlers : Handlers τ η ω) :
    Sound enabled interval (machine.after handlers .fire) ∧
      (machine.after handlers .fire).Awaiting := by
  cases hstopped : machine.toggle.stopped with
  | true =>
    rw [after_fire_stopped handlers machine hstopped]
    refine ⟨hsound, fun hgoing => ?_⟩
    cases hstopped.symm.trans hgoing
  | false =>
    have hflip := not_eq_iff_even_succ hsound.parity
    obtain ⟨around, hafter⟩ := after_fire handlers hstopped
    rw [hafter]
    refine ⟨⟨hsound.tidy.schedule _ _ _, hsound.interval, hflip,
      congrArg (· + 1) hsound.announced, fun call hcall => ?_⟩, fun _ _ hnext => ?_⟩
    · obtain hearlier | hnow := List.mem_append.mp hcall
      · exact hsound.heard call hearlier
      · obtain ⟨handler, _, rfl⟩ := List.mem_map.mp hnow
        rw [hsound.announced]
        exact hflip
    · cases hnext
      exact ⟨_, hsound.tidy.awaits_schedule _ _ _⟩

/-- One event keeps it all. -/
theorem Sound.after (hsound : Sound enabled interval machine) (hawaiting : machine.Awaiting)
    (handlers : Handlers τ η ω) (event : Event τ η ω) :
    Sound enabled interval (machine.after handlers event) ∧
      (machine.after handlers event).Awaiting := by
  cases event with
  | start => exact hsound.start handlers
  | stop =>
    refine ⟨⟨hsound.tidy, hsound.interval, hsound.parity, hsound.announced, hsound.heard⟩, ?_⟩
    intro hgoing
    cases hgoing
  | fire => exact hsound.fire handlers
  | elapse place late =>
    have htidy := hsound.tidy.elapse place late
    rw [after_elapse]
    obtain hnone | ⟨run, _, hdue⟩ := Timer.elapse_cases machine.timer place late
    · simp only [hnone]
      exact ⟨hsound, hawaiting⟩
    · simp only [hdue] at htidy ⊢
      exact (hsound.onTimer htidy).fire handlers
  | meanwhile around =>
    exact ⟨⟨hsound.tidy, hsound.interval, hsound.parity, hsound.announced, hsound.heard⟩,
      hawaiting⟩

theorem sound_run (handlers : Handlers τ η ω) (enabled : Bool) (interval : τ)
    (around : Around τ η ω) (events : List (Event τ η ω)) :
    Sound enabled interval (run handlers enabled interval around events) ∧
      (run handlers enabled interval around events).Awaiting := by
  have hbegin : Awaiting ({ toggle := { enabled, interval }, around } : Machine τ η ω) :=
    fun _ _ hnext => by cases hnext
  have hrun (machine : Machine τ η ω) (hsound : Sound enabled interval machine)
      (hawaiting : machine.Awaiting) :
      Sound enabled interval (events.foldl (Machine.after handlers) machine) ∧
        (events.foldl (Machine.after handlers) machine).Awaiting := by
    induction events generalizing machine with
    | nil => exact ⟨hsound, hawaiting⟩
    | cons event later ih =>
      obtain ⟨hsound, hawaiting⟩ := hsound.after hawaiting handlers event
      exact ih _ hsound hawaiting
  exact hrun _ (sound_begin enabled interval around) hbegin

end Machine

section Faithful

variable {τ η ω : Type} [AddCommGroup τ] [LinearOrder τ]

/-- The only pending run of the toggle is the one for a moment, at once if the timer is late
    for it. -/
structure Machine.Due (machine : Machine τ η ω) (moment : τ) : Prop where
  next : machine.toggle.next = some moment
  awaits : ∃ delay, machine.timer.Awaits () delay ∧
    machine.around.timerClock + delay = max machine.around.timerClock moment

/-- One machine comes from another by a firing: the switch is flipped, every handler is called for
    it and sees it flipped, and the next firing is due one interval after the time that it
    is then. -/
structure Machine.Fires (before after : Machine τ η ω) : Prop where
  enabled : after.toggle.enabled = !before.toggle.enabled
  firings : after.toggle.firings = before.toggle.firings + 1
  announced : after.announced = before.announced + 1
  calls : after.calls = before.calls ++ (before.around.bus.handlers rulesChanged).map fun handler =>
    ⟨after.announced, handler, after.toggle.enabled⟩
  due : after.Due (after.around.clock + before.toggle.interval)

/-- What holds of a toggle at work, and of its next event. -/
structure Machine.Faithful (handlers : Handlers τ η ω) (enabled : Bool) (interval : τ)
    (machine : Machine τ η ω) : Prop where
  parity : machine.toggle.enabled = enabled ↔ Even machine.toggle.firings
  announced : machine.announced = machine.toggle.firings
  heard : ∀ call ∈ machine.calls, (call.enabled = enabled ↔ Even call.announcement)
  paced : machine.toggle.interval = interval
  awaiting : machine.Awaiting
  started : (machine.after handlers .start).Due (machine.around.clock + interval)
  fired : machine.toggle.stopped = false → machine.Fires (machine.after handlers .fire)
  /-- So it is when a run comes due, early or late, also one that was cancelled too late. -/
  elapsed : machine.toggle.stopped = false → ∀ place late,
    (machine.timer.elapse place late).2.isSome = true →
      machine.Fires (machine.after handlers (.elapse place late))
  idle : machine.toggle.stopped = true →
    (Machine.perform handlers .fire).run machine = pure ((), machine)
  /-- A run that comes due after a stop is over, and that is all. -/
  spent : machine.toggle.stopped = true → ∀ place late,
    machine.after handlers (.elapse place late) =
      { machine with timer := (machine.timer.elapse place late).1 }

variable [IsOrderedAddMonoid τ]

theorem Machine.fires_fire (handlers : Handlers τ η ω) (machine : Machine τ η ω)
    (htidy : machine.timer.Tidy) (hgoing : machine.toggle.stopped = false) :
    machine.Fires (machine.after handlers .fire) := by
  obtain ⟨around, hafter⟩ := after_fire handlers hgoing
  rw [hafter]
  exact ⟨rfl, rfl, rfl, rfl, rfl, _, htidy.awaits_schedule _ _ _, Timer.add_delayUntil _ _⟩

/-- Whatever happens to a toggle, in whatever order, whatever the clocks tell, and whatever handlers
    do and fail at: the switch stands as its firings say, each of them was announced once, and after
    every start and every effective firing exactly one run is pending. -/
theorem Machine.faithful_run (handlers : Handlers τ η ω) (enabled : Bool) (interval : τ)
    (around : Around τ η ω) (events : List (Event τ η ω)) :
    (run handlers enabled interval around events).Faithful handlers enabled interval := by
  obtain ⟨hsound, hawaiting⟩ := sound_run handlers enabled interval around events
  generalize run handlers enabled interval around events = machine at hsound hawaiting
  refine
    { parity := hsound.parity
      announced := hsound.announced
      heard := hsound.heard
      paced := hsound.interval
      awaiting := hawaiting
      started := ?_
      fired := fires_fire handlers machine hsound.tidy
      elapsed := fun hgoing place late hdue => ?_
      idle := run_fire_stopped handlers machine
      spent := fun hstopped place late => ?_ }
  · rw [after_start, ← hsound.interval]
    exact ⟨rfl, _, hsound.tidy.awaits_schedule _ _ _, Timer.add_delayUntil _ _⟩
  · rw [after_elapse, if_pos hdue]
    obtain ⟨henabled, hfirings, hannounced, hcalls, hnext⟩ := fires_fire handlers
      { machine with timer := (machine.timer.elapse place late).1 }
      (hsound.tidy.elapse place late) hgoing
    exact ⟨henabled, hfirings, hannounced, hcalls, hnext⟩
  · rw [after_elapse]
    split
    · exact after_fire_stopped handlers _ hstopped
    · rfl

/-- The only handler fails at every announcement. -/
theorem Machine.faithful_run_failing :
    let failing : Handlers ℤ Unit Unit := fun _ _ _ _ => pure (.error (.misuse "down"))
    let around : Around ℤ Unit Unit :=
      { bus := ⟨[⟨rulesChanged, ()⟩]⟩, clock := 100, timerClock := 100, rest := () }
    let machine := run failing true 5 around [.start, .elapse 0 false, .fire]
    machine.toggle = { enabled := true, interval := 5, next := some 105, firings := 2 } ∧
      machine.calls.map (·.enabled) = [false, true] ∧ machine.Faithful failing true 5 :=
  ⟨by decide, by decide, faithful_run _ _ _ _ _⟩

end Faithful

end AllowPolicy.Toggle
