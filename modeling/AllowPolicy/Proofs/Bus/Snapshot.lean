import AllowPolicy.Proofs.Bus.Delivery

namespace AllowPolicy.Bus

/-- One call of a handler: the state that it found, how it ended, and what it wrote on the way. -/
structure Visit (σ η : Type) where
  handler : η
  before : σ
  result : Outcome Unit
  after : σ
  records : List Record

/-- A state, and the handlers called in it so far, each with the event that it was called for. -/
structure Heard (σ η : Type) where
  state : σ
  calls : List (Subscription η) := []

variable {σ η : Type}

/-- A handler is called in a state. -/
def visit (call : η → Act σ (Outcome Unit)) (handler : η) (state : σ) : Visit σ η :=
  let ran := (call handler).run state
  { handler, before := state, result := ran.value.1, after := ran.value.2, records := ran.journal }

/-- Handlers are called in turn. Each finds what the one before it left. -/
def visits (call : η → Act σ (Outcome Unit)) : List η → σ → List (Visit σ η)
  | [], _ => []
  | handler :: rest, state =>
    let first := visit call handler state
    first :: visits call rest first.after

/-- The state after some visits. -/
def stateAfter (state : σ) (visits : List (Visit σ η)) : σ :=
  visits.foldl (fun _ visit => visit.after) state

/-- Calls a handler, and takes down that it was called. -/
def Heard.call (call : η → String → Act σ (Outcome Unit)) (handler : η) (event : String) :
    Act (Heard σ η) (Outcome Unit) := do
  let heard ← get
  let (result, state) ← ((call handler event).run heard.state : Logged _)
  set { state, calls := heard.calls ++ [⟨event, handler⟩] : Heard σ η }
  pure result

theorem value_run_call (call : η → String → Act σ (Outcome Unit)) (handler : η) (event : String)
    (heard : Heard σ η) :
    ((Heard.call call handler event).run heard).value =
      ((visit (call · event) handler heard.state).result,
        ⟨(visit (call · event) handler heard.state).after,
          heard.calls ++ [⟨event, handler⟩]⟩) := rfl

theorem journal_run_call (call : η → String → Act σ (Outcome Unit)) (handler : η) (event : String)
    (heard : Heard σ η) :
    ((Heard.call call handler event).run heard).journal =
      (visit (call · event) handler heard.state).records := by
  simp [Heard.call, visit]

/-- A delivery is the visits in turn. -/
theorem value_run_deliver (call : η → String → Act σ (Outcome Unit)) (event : String)
    (handlers : List η) (heard : Heard σ η) :
    ((deliver (Heard.call call · event) event handlers).run heard).value.2 =
      ⟨stateAfter heard.state (visits (call · event) handlers heard.state),
        heard.calls ++ handlers.map (⟨event, ·⟩)⟩ := by
  induction handlers generalizing heard with
  | nil => simp [deliver, visits, stateAfter]
  | cons handler rest ih =>
    rw [run_deliver_cons, value_run_call, ih]
    simp [visits, stateAfter]

/-- It writes what the handlers write, and behind each that fails a note of its failure. -/
theorem journal_run_deliver (call : η → String → Act σ (Outcome Unit)) (event : String)
    (handlers : List η) (heard : Heard σ η) :
    ((deliver (Heard.call call · event) event handlers).run heard).journal =
      (visits (call · event) handlers heard.state).flatMap fun visit =>
        visit.records ++ noteOf event visit.result := by
  induction handlers generalizing heard with
  | nil => simp [deliver, visits]
  | cons handler rest ih =>
    rw [journal_deliver_cons, value_run_call, journal_run_call, ih]
    rfl

theorem visits_map_handler (call : η → Act σ (Outcome Unit)) (handlers : List η) (state : σ) :
    (visits call handlers state).map (·.handler) = handlers := by
  induction handlers generalizing state with
  | nil => rfl
  | cons handler rest ih => exact congrArg (handler :: ·) (ih _)

theorem map_handlers (bus : Bus η) (event : String) :
    (bus.handlers event).map (⟨event, ·⟩) = bus.subscriptions.filter (·.event = event) := by
  rw [handlers, List.map_map]
  refine (List.map_congr_left fun subscription hmem => ?_).trans (List.map_id _)
  obtain rfl := of_decide_eq_true (List.mem_filter.mp hmem).2
  rfl

theorem count_handlers [DecidableEq η] (bus : Bus η) (event : String) (handler : η) :
    (bus.handlers event).count handler = bus.subscriptions.count ⟨event, handler⟩ := by
  simp only [handlers, List.count, List.countP_map, List.countP_filter]
  refine List.countP_congr fun subscription _ => ?_
  rcases subscription with ⟨other, another⟩
  simp [and_comm]

/-- The handlers of an event are called for it, those that the bus has when it is published. -/
theorem calls_publish (busOf : σ → Bus η) (call : η → String → Act σ (Outcome Unit))
    (event : String) (heard : Heard σ η) :
    ((publish (busOf ·.state) (Heard.call call) event).run heard).value.2.calls =
      heard.calls ++ (busOf heard.state).subscriptions.filter (·.event = event) := by
  rw [run_publish, value_run_deliver, map_handlers]

/-- It makes no difference to the state that the calls are taken down. -/
theorem state_publish (busOf : σ → Bus η) (call : η → String → Act σ (Outcome Unit))
    (event : String) (heard : Heard σ η) :
    ((publish (busOf ·.state) (Heard.call call) event).run heard).value.2.state =
      ((publish busOf call event).run heard.state).value.2 := by
  rw [run_publish, run_publish, value_run_deliver]
  generalize (busOf heard.state).handlers event = handlers
  generalize heard.state = state
  induction handlers generalizing state with
  | nil => simp [deliver, visits, stateAfter]
  | cons handler rest ih =>
    rw [run_deliver_cons]
    exact ih _

/-- An event goes to exactly those who were subscribed to it when it was published, once for every
    subscription and in their order. Their number is told, every failure is noted once, behind what
    its handler wrote, and it stops nobody. Handlers that come and go meanwhile, of this event or of
    others, count for what is published later. -/
theorem publish_snapshot (busOf : σ → Bus η) (call : η → String → Act σ (Outcome Unit))
    (event : String) (heard : Heard σ η) :
    let bus := busOf heard.state
    let called := visits (call · event) (bus.handlers event) heard.state
    let published := (publish (busOf ·.state) (Heard.call call) event).run heard
    let after := published.value.2
    published.value.1 = bus.count event ∧
      after.calls = heard.calls ++ bus.subscriptions.filter (·.event = event) ∧
      called.map (·.handler) = bus.handlers event ∧
      after.state = stateAfter heard.state called ∧
      published.journal =
        (called.flatMap fun visit => visit.records ++ noteOf event visit.result) ++
          [{ level := .debug
             text := "Published " ++ event ++ " to " ++ toString (bus.count event) ++
               " handler(s)" }] ∧
      ∀ later, ((publish (busOf ·.state) (Heard.call call) later).run after).value.2.calls =
        after.calls ++ (busOf after.state).subscriptions.filter (·.event = later) := by
  intro bus called published after
  refine ⟨rfl, calls_publish busOf call event heard, visits_map_handler _ _ _, ?_, ?_,
    fun later => calls_publish busOf call later after⟩
  · have hafter : after = _ := (run_publish _ _ _ _).trans (value_run_deliver _ _ _ _)
    rw [hafter]
  · exact (journal_publish _ _ _ _).trans (congrArg (· ++ _) (journal_run_deliver _ _ _ _))

/-- Two handlers take each other off, and both are called. -/
example :
    let call : Bool → String → Act (Bus Bool) (Outcome Unit) := fun handler event => do
      modify (·.unsubscribe ⟨event, !handler⟩)
      pure (.ok ())
    let heard : Heard (Bus Bool) Bool :=
      { state := ⟨[⟨rulesChanged, false⟩, ⟨rulesChanged, true⟩]⟩ }
    let after := ((publish (·.state) (Heard.call call) rulesChanged).run heard).value.2
    after.calls = [⟨rulesChanged, false⟩, ⟨rulesChanged, true⟩] ∧
      after.state.subscriptions = [] := by
  decide

end AllowPolicy.Bus
