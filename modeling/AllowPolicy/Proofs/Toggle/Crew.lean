import AllowPolicy.Proofs.Toggle.Machine
import Mathlib.Logic.Function.Basic

namespace AllowPolicy.Toggle

/-- How far a thread has got with a firing or with a start. -/
inductive Stage (η : Type) where
  | idle
  /-- It fires, and is to look first whether the toggle was stopped. -/
  | called
  | flipping
  | announcing
  /-- It calls the handlers that are left. -/
  | calling (rest : List η)
  /-- It is to schedule the next firing. A start comes here as well. -/
  | scheduling

/-- What a firing does that others notice. -/
inductive Effect where
  | flip
  | announce
  | schedule
  deriving DecidableEq

namespace Stage

variable {η : Type}

def isIdle : Stage η → Bool
  | .idle => true
  | _ => false

theorem eq_idle {stage : Stage η} (hidle : stage.isIdle = true) : stage = .idle := by
  cases stage <;> first | rfl | cases hidle

/-- The effects that are still to come, whatever happens to the toggle meanwhile. -/
def ahead : Stage η → List Effect
  | .idle | .called => []
  | .flipping => [.flip, .announce, .schedule]
  | .announcing => [.announce, .schedule]
  | .calling _ | .scheduling => [.schedule]

end Stage

/-- Threads at a toggle and its timer, and the effects that they had so far. A thread that fires
    again from within a handler counts as another one. -/
structure Crew (ι τ η ω : Type) where
  machine : Machine τ η ω
  stage : ι → Stage η := fun _ => .idle
  effects : List (ι × Effect) := []

/-- What happens at a toggle: a thread that does nothing starts it, fires or is the run of the timer
    that comes due, somebody stops it or cancels all runs, perhaps a handler, a thread takes its
    next step, or something happens around. An engine that is closed stops its toggle and then
    cancels all runs. -/
inductive Crew.Move (ι τ η ω : Type) where
  | start (thread : ι)
  | stop
  | cancelAll
  | fire (thread : ι)
  | elapse (thread : ι) (place : Nat) (late : Bool)
  | step (thread : ι)
  | meanwhile (around : Around τ η ω)

def Crew.Move.isStart {ι τ η ω : Type} : Crew.Move ι τ η ω → Bool
  | .start _ => true
  | _ => false

/-- No pending run comes due or is cancelled by the move. -/
def Crew.Move.keepsRuns {ι τ η ω : Type} : Crew.Move ι τ η ω → Bool
  | .elapse .. | .cancelAll => false
  | _ => true

variable {ι τ η ω : Type}

namespace Machine

variable [Add τ] [Sub τ] [LT τ] [DecidableLT τ] [OfNat τ 0]

/-- The machine when the switch is flipped. -/
def flipped (handlers : Handlers τ η ω) (machine : Machine τ η ω) : Machine τ η ω :=
  (((site handlers).update fun toggle => { toggle.flip with firings := toggle.firings + 1 }).run
    machine).value.2

/-- The machine when the next firing is scheduled. -/
def scheduled (handlers : Handlers τ η ω) (machine : Machine τ η ω) : Machine τ η ω :=
  ((site handlers).scheduleNext.run machine).value.2

/-- The machine when a handler is called. -/
def heard (handlers : Handlers τ η ω) (machine : Machine τ η ω) (handler : η) : Machine τ η ω :=
  ((call handlers handler rulesChanged).run machine).value.2

/-- An effective firing flips, announces to one handler after another, and schedules the next. -/
theorem after_fire_eq (handlers : Handlers τ η ω) {machine : Machine τ η ω}
    (hgoing : machine.toggle.stopped = false) :
    machine.after handlers .fire =
      scheduled handlers
        ((machine.around.bus.handlers rulesChanged).foldl (heard handlers)
          { flipped handlers machine with announced := machine.announced + 1 }) := by
  rw [after_fire_going handlers hgoing, Bus.run_deliver_eq_foldl]
  rfl

end Machine

namespace Crew

variable [DecidableEq ι]

def goTo (crew : Crew ι τ η ω) (thread : ι) (stage : Stage η) : Crew ι τ η ω :=
  { crew with stage := Function.update crew.stage thread stage }

/-- A thread had an effect on the machine, and is a stage further. -/
def affect (crew : Crew ι τ η ω) (thread : ι) (effect : Effect) (machine : Machine τ η ω)
    (stage : Stage η) : Crew ι τ η ω where
  machine
  stage := Function.update crew.stage thread stage
  effects := crew.effects ++ [(thread, effect)]

@[simp] theorem stage_goTo (crew : Crew ι τ η ω) (thread : ι) (stage : Stage η) :
    (crew.goTo thread stage).stage = Function.update crew.stage thread stage := rfl

@[simp] theorem stage_affect (crew : Crew ι τ η ω) (thread : ι) (effect : Effect)
    (machine : Machine τ η ω) (stage : Stage η) :
    (crew.affect thread effect machine stage).stage = Function.update crew.stage thread stage := rfl

variable [Add τ] [Sub τ] [LT τ] [DecidableLT τ] [OfNat τ 0]

/-- A thread takes its next step. Only the first of them looks whether the toggle was stopped. -/
def advance (handlers : Handlers τ η ω) (crew : Crew ι τ η ω) (thread : ι) : Crew ι τ η ω :=
  match crew.stage thread with
  | .idle => crew
  | .called => crew.goTo thread (if crew.machine.toggle.stopped then .idle else .flipping)
  | .flipping => crew.affect thread .flip (crew.machine.flipped handlers) .announcing
  | .announcing =>
    crew.affect thread .announce { crew.machine with announced := crew.machine.announced + 1 }
      (.calling (crew.machine.around.bus.handlers rulesChanged))
  | .calling (handler :: rest) =>
    { crew with machine := crew.machine.heard handlers handler }.goTo thread (.calling rest)
  | .calling [] => crew.goTo thread .scheduling
  | .scheduling => crew.affect thread .schedule (crew.machine.scheduled handlers) .idle

/-- What a move leads to. A thread that is busy takes up nothing else. -/
def perform (handlers : Handlers τ η ω) (crew : Crew ι τ η ω) : Move ι τ η ω → Crew ι τ η ω
  | .start thread =>
    if (crew.stage thread).isIdle then
      { crew with
        machine.toggle.stopped := false }.goTo thread .scheduling
    else crew
  | .stop => { crew with machine := crew.machine.after handlers .stop }
  | .cancelAll => { crew with machine.timer := crew.machine.timer.cancelAll }
  | .fire thread => if (crew.stage thread).isIdle then crew.goTo thread .called else crew
  | .elapse thread place late =>
    if (crew.stage thread).isIdle then
      let (timer, due) := crew.machine.timer.elapse place late
      let timed : Crew ι τ η ω := { crew with machine.timer := timer }
      if due.isSome then timed.goTo thread .called else timed
    else crew
  | .step thread => crew.advance handlers thread
  | .meanwhile around => { crew with machine.around := around }

def performAll (handlers : Handlers τ η ω) (crew : Crew ι τ η ω) (moves : List (Move ι τ η ω)) :
    Crew ι τ η ω := moves.foldl (perform handlers) crew

/-- The crew after some moves, at a toggle that was just made. -/
def run (handlers : Handlers τ η ω) (enabled : Bool) (interval : τ) (around : Around τ η ω)
    (moves : List (Move ι τ η ω)) : Crew ι τ η ω :=
  performAll handlers { machine := { toggle := { enabled, interval }, around } } moves

/-- If nobody comes in between, the thread ends what it does, and leaves this machine. -/
def Ends (handlers : Handlers τ η ω) (crew : Crew ι τ η ω) (thread : ι)
    (machine : Machine τ η ω) : Prop :=
  ∃ count, (performAll handlers crew (List.replicate count (.step thread))).machine = machine ∧
    (performAll handlers crew (List.replicate count (.step thread))).stage thread = .idle

variable {handlers : Handlers τ η ω} {crew : Crew ι τ η ω} {thread : ι}

theorem ends_idle (hstage : crew.stage thread = .idle) : crew.Ends handlers thread crew.machine :=
  ⟨0, rfl, hstage⟩

theorem Ends.of_step {machine : Machine τ η ω}
    (hends : (crew.advance handlers thread).Ends handlers thread machine) :
    crew.Ends handlers thread machine := by
  obtain ⟨count, hends⟩ := hends
  exact ⟨count + 1, hends⟩

theorem ends_scheduling (hstage : crew.stage thread = .scheduling) :
    crew.Ends handlers thread (crew.machine.scheduled handlers) := by
  refine .of_step ?_
  rw [advance, hstage]
  exact ends_idle (Function.update_self ..)

theorem ends_calling {rest : List η} (hstage : crew.stage thread = .calling rest) :
    crew.Ends handlers thread
      ((rest.foldl (Machine.heard handlers) crew.machine).scheduled handlers) := by
  induction rest generalizing crew with
  | nil =>
    refine .of_step ?_
    rw [advance, hstage]
    exact ends_scheduling (Function.update_self ..)
  | cons handler rest ih =>
    refine .of_step ?_
    rw [advance, hstage]
    exact ih (Function.update_self ..)

theorem ends_announcing (hstage : crew.stage thread = .announcing) :
    crew.Ends handlers thread
      (((crew.machine.around.bus.handlers rulesChanged).foldl (Machine.heard handlers)
        { crew.machine with announced := crew.machine.announced + 1 }).scheduled handlers) := by
  refine .of_step ?_
  rw [advance, hstage]
  exact ends_calling (Function.update_self ..)

theorem ends_flipping (hstage : crew.stage thread = .flipping)
    (hgoing : crew.machine.toggle.stopped = false) :
    crew.Ends handlers thread (crew.machine.after handlers .fire) := by
  rw [Machine.after_fire_eq handlers hgoing]
  refine .of_step ?_
  rw [advance, hstage]
  exact ends_announcing (Function.update_self ..)

/-- A thread that fires by itself does what a firing does. -/
theorem ends_called (hstage : crew.stage thread = .called) :
    crew.Ends handlers thread (crew.machine.after handlers .fire) := by
  refine .of_step ?_
  rw [advance, hstage]
  cases hstopped : crew.machine.toggle.stopped with
  | true =>
    rw [Machine.after_fire_stopped handlers _ hstopped]
    exact ends_idle (Function.update_self ..)
  | false => exact ends_flipping (Function.update_self ..) hstopped

end Crew

end AllowPolicy.Toggle
