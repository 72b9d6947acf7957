namespace AllowPolicy

/-- What has become of one run of a timer. -/
inductive Timer.State where
  | armed
  | cancelled
  | done
  deriving DecidableEq, Repr

/-- One run: it calls `callback` once, `delay` after it was made. -/
structure Timer.Run (τ κ : Type) where
  delay : τ
  state : Timer.State := .armed
  callback : κ

/-- A timer facility. A new run of a callback cancels the pending one. -/
structure Timer (τ κ : Type) where
  /-- Every run made so far, the oldest first. -/
  runs : List (Timer.Run τ κ) := []
  /-- The pending run of each callback that has one, by its place among the runs. -/
  pending : List (κ × Nat) := []

namespace Timer

variable {τ κ : Type}

def State.name : State → String
  | .armed => "armed"
  | .cancelled => "cancelled"
  | .done => "done"

/-- Cancels the run in a place, if it is still armed. -/
def cancel (runs : List (Run τ κ)) (place : Nat) : List (Run τ κ) :=
  runs.modify place fun run => if run.state = .armed then { run with state := .cancelled } else run

def cancelAll (timer : Timer τ κ) : Timer τ κ :=
  { runs := timer.pending.foldl (fun runs (_, place) => cancel runs place) timer.runs,
    pending := [] }

/-- The time from now to a moment, zero for a moment in the past. -/
def delayUntil [Sub τ] [LT τ] [DecidableLT τ] [OfNat τ 0] (now moment : τ) : τ :=
  if 0 < moment - now then moment - now else 0

variable [DecidableEq κ]

/-- Makes a run of `callback` at a moment, in place of its pending one. -/
def schedule [Sub τ] [LT τ] [DecidableLT τ] [OfNat τ 0] (timer : Timer τ κ) (now moment : τ)
    (callback : κ) : Timer τ κ :=
  let runs := match timer.pending.lookup callback with
    | some place => cancel timer.runs place
    | none => timer.runs
  { runs := runs ++ [{ delay := delayUntil now moment, callback }]
    pending := timer.pending.filter (·.1 ≠ callback) ++ [(callback, runs.length)] }

/-- The delay of the run in a place has passed. An armed run is done with then and calls its
    callback, and so does, if it is `late`, a run cancelled in the same moment; a run that is no
    longer the pending one leaves the pending one alone. -/
def elapse (timer : Timer τ κ) (place : Nat) (late : Bool) : Timer τ κ × Option κ :=
  match timer.runs[place]? with
  | none => (timer, none)
  | some run =>
    if run.state = .armed ∨ (late ∧ run.state = .cancelled) then
      ({ runs := timer.runs.modify place fun run => { run with state := .done }
         pending := timer.pending.filter (· ≠ (run.callback, place)) },
        some run.callback)
    else (timer, none)

end Timer

end AllowPolicy
