import AllowPolicy.Bus

namespace AllowPolicy.Bus

variable {σ η : Type}

/-- The handlers behind one that fails are called as well. -/
theorem run_deliver_cons (call : η → Act σ (Outcome Unit)) (event : String) (handler : η)
    (rest : List η) (state : σ) :
    ((deliver call event (handler :: rest)).run state).value.2 =
      ((deliver call event rest).run ((call handler).run state).value.2).value.2 := by
  simp only [deliver, StateT.run_bind, Logged.value_bind]
  rcases ((call handler).run state).value with ⟨_ | _, after⟩
  · simp
  · simp

/-- A delivery calls the handlers in turn. -/
theorem run_deliver_eq_foldl (call : η → Act σ (Outcome Unit)) (event : String)
    (handlers : List η) (state : σ) :
    ((deliver call event handlers).run state).value.2 =
      handlers.foldl (fun state handler => ((call handler).run state).value.2) state := by
  induction handlers generalizing state with
  | nil => rfl
  | cons handler rest ih => exact (run_deliver_cons call event handler rest state).trans (ih _)

/-- What is noted of a call: the failure of the handler, if it failed. -/
def noteOf (event : String) : Outcome Unit → List Record
  | .ok () => []
  | .error failure =>
    [{ level := .error, text := "Handler failed for event " ++ event, failure := some failure }]

/-- What a handler writes stands in front of the note of its failure. -/
theorem journal_deliver_cons (call : η → Act σ (Outcome Unit)) (event : String) (handler : η)
    (rest : List η) (state : σ) :
    ((deliver call event (handler :: rest)).run state).journal =
      ((call handler).run state).journal ++
        noteOf event ((call handler).run state).value.1 ++
        ((deliver call event rest).run ((call handler).run state).value.2).journal := by
  simp only [deliver, StateT.run_bind, Logged.journal_bind]
  rcases ((call handler).run state).value with ⟨_ | _, after⟩
  · simp [noteOf]
  · simp [noteOf]

theorem run_publish (busOf : σ → Bus η) (call : η → String → Act σ (Outcome Unit))
    (event : String) (state : σ) :
    ((publish busOf call event).run state).value.2 =
      ((deliver (call · event) event ((busOf state).handlers event)).run state).value.2 := by
  simp [publish]

theorem journal_publish (busOf : σ → Bus η) (call : η → String → Act σ (Outcome Unit))
    (event : String) (state : σ) :
    ((publish busOf call event).run state).journal =
      ((deliver (call · event) event ((busOf state).handlers event)).run state).journal ++
        [{ level := .debug
           text := "Published " ++ event ++ " to " ++ toString ((busOf state).count event) ++
             " handler(s)" }] := by
  simp [publish, count]

end AllowPolicy.Bus
