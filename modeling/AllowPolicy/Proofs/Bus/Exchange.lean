import AllowPolicy.Proofs.Bus.Register

namespace AllowPolicy.Bus

/-- A bus in use: its register, all that was done to the subscriptions so far, by handlers too, and
    the rest of the world. -/
structure Exchange (η ω : Type) where
  register : Register η := {}
  deeds : List (Deed η) := []
  rest : ω

/-- What is done with a bus. -/
inductive Move (η : Type) where
  | deed (deed : Deed η)
  | publish (event : String)

namespace Exchange

variable {η ω : Type} [DecidableEq η]

/-- What the handlers do. They may look at everything, make subscriptions and take them back, in any
    order, change the rest of the world, and fail. -/
abbrev Handlers (η ω : Type) :=
  η → String → Exchange η ω → Logged (Outcome Unit × List (Deed η) × ω)

def enact (exchange : Exchange η ω) (deeds : List (Deed η)) : Exchange η ω :=
  { exchange with
    register := deeds.foldl Register.perform exchange.register
    deeds := exchange.deeds ++ deeds }

def call (handlers : Handlers η ω) (handler : η) (event : String) :
    Act (Exchange η ω) (Outcome Unit) := do
  let exchange ← get
  let (result, deeds, rest) ← (handlers handler event exchange : Logged _)
  set { exchange.enact deeds with rest }
  pure result

def perform (handlers : Handlers η ω) (heard : Heard (Exchange η ω) η) :
    Move η → Heard (Exchange η ω) η
  | .deed deed => { heard with state := heard.state.enact [deed] }
  | .publish event =>
    ((publish (·.state.register.bus) (Heard.call (call handlers)) event).run heard).value.2

/-- The exchange after some moves on a bus that nobody has used before, with the handlers called. -/
def run (handlers : Handlers η ω) (rest : ω) (moves : List (Move η)) :
    Heard (Exchange η ω) η :=
  moves.foldl (perform handlers) { state := { rest } }

/-- One exchange comes from another by deeds. -/
def Continues (before after : Exchange η ω) : Prop :=
  ∃ deeds, after = { before.enact deeds with rest := after.rest }

theorem Continues.refl (exchange : Exchange η ω) : exchange.Continues exchange :=
  ⟨[], by simp [enact]⟩

theorem Continues.trans {first second third : Exchange η ω} (hfirst : first.Continues second)
    (hsecond : second.Continues third) : first.Continues third := by
  obtain ⟨early, hearly⟩ := hfirst
  obtain ⟨late, hlate⟩ := hsecond
  refine ⟨early ++ late, ?_⟩
  rw [hlate, hearly]
  simp [enact]

theorem continues_visits (handlers : Handlers η ω) (event : String) (called : List η)
    (exchange : Exchange η ω) :
    exchange.Continues (stateAfter exchange (visits (call handlers · event) called exchange)) := by
  induction called generalizing exchange with
  | nil => exact .refl exchange
  | cons handler rest ih => exact Continues.trans ⟨_, rfl⟩ (ih _)

theorem continues_perform (handlers : Handlers η ω) (heard : Heard (Exchange η ω) η)
    (move : Move η) : heard.state.Continues (perform handlers heard move).state := by
  cases move with
  | deed deed => exact ⟨[deed], rfl⟩
  | publish event =>
    have hafter :=
      (run_publish (·.state.register.bus) (Heard.call (call handlers)) event heard).trans
      (value_run_deliver _ _ _ _)
    rw [perform, hafter]
    exact continues_visits handlers event _ heard.state

theorem continues_foldl (handlers : Handlers η ω) (heard : Heard (Exchange η ω) η)
    (moves : List (Move η)) :
    heard.state.Continues (moves.foldl (perform handlers) heard).state := by
  induction moves generalizing heard with
  | nil => exact .refl _
  | cons move rest ih => exact (continues_perform handlers heard move).trans (ih _)

theorem register_run (handlers : Handlers η ω) (rest : ω) (moves : List (Move η)) :
    (run handlers rest moves).state.register =
      Register.after (run handlers rest moves).state.deeds := by
  obtain ⟨deeds, hrun⟩ := continues_foldl handlers { state := { rest } } moves
  rw [run, hrun]
  rfl

theorem calls_perform (handlers : Handlers η ω) (heard : Heard (Exchange η ω) η) (event : String) :
    (perform handlers heard (.publish event)).calls =
      heard.calls ++ heard.state.register.bus.subscriptions.filter (·.event = event) := by
  rw [perform, calls_publish fun exchange : Exchange η ω => exchange.register.bus]

/-- Every function takes back its own subscription only, at the time when it is called. -/
def TakesOwn (deeds : List (Deed η)) : Prop :=
  ∀ early place, early ++ [.undo place] <+: deeds → (Register.after early).TakesOwn place

theorem takesOwn_of_nodup {deeds : List (Deed η)} (hnodup : (deeds.filterMap Deed.made?).Nodup) :
    TakesOwn deeds := by
  intro early place hprefix
  refine Register.takesOwn_of_nodup ?_ place
  rw [Register.subscriptions_after]
  have hearly := ((List.prefix_append early _).trans hprefix).filterMap Deed.made?
  exact hnodup.sublist hearly.sublist

/-- In every use of a bus, by its handlers too, events go at all times to those whose own functions
    have not been called, in the order of their subscriptions, exactly if every function takes back
    its own subscription when it is called. That is so if no handler is subscribed twice to an
    event. In any case an event goes to those whom the bus has then. -/
theorem exact_iff_takesOwn (handlers : Handlers η ω) (rest : ω) (moves : List (Move η)) :
    let deeds := (run handlers rest moves).state.deeds
    (run handlers rest moves).state.register = Register.after deeds ∧
      ((∀ early, early <+: deeds → (Register.after early).Exact) ↔ TakesOwn deeds) ∧
      ((deeds.filterMap Deed.made?).Nodup → TakesOwn deeds) ∧
      ∀ before event later, moves = before ++ .publish event :: later →
        let heard := run handlers rest before
        let calls := (perform handlers heard (.publish event)).calls
        calls = heard.calls ++ heard.state.register.bus.subscriptions.filter (·.event = event) ∧
          (TakesOwn deeds → calls =
            heard.calls ++ (standing heard.state.register.entries).filter (·.event = event)) := by
  intro deeds
  have hexact := Register.exact_after_iff deeds
  refine ⟨register_run handlers rest moves, hexact, takesOwn_of_nodup, ?_⟩
  intro before event later hmoves heard calls
  have hcalls : calls = _ := calls_perform handlers heard event
  refine ⟨hcalls, fun hown => ?_⟩
  have hprefix : heard.state.deeds <+: deeds := by
    obtain ⟨more, hcontinues⟩ := continues_foldl handlers heard (.publish event :: later)
    refine ⟨more, ?_⟩
    simp only [deeds, run, hmoves, List.foldl_append]
    exact (congrArg Exchange.deeds hcontinues).symm
  have hheard := hexact.mpr hown _ hprefix
  rw [← register_run] at hheard
  rw [hcalls, hheard event]

/-- A handler that takes itself back when it is first called, and fails, and is called no more. -/
theorem exact_iff_takesOwn_once :
    let handlers : Handlers Bool Unit := fun handler _ _ =>
      pure (if handler then .ok () else .error (.misuse "down"),
        if handler then [] else [.undo 0], ())
    let moves : List (Move Bool) :=
      [.deed (.subscribe ⟨rulesChanged, false⟩), .deed (.subscribe ⟨rulesChanged, true⟩),
        .publish rulesChanged]
    let heard := run handlers () moves
    (heard.state.deeds.filterMap Deed.made?).Nodup ∧
      (perform handlers heard (.publish rulesChanged)).calls =
        [⟨rulesChanged, false⟩, ⟨rulesChanged, true⟩, ⟨rulesChanged, true⟩] := by
  intro handlers moves heard
  have hnodup : (heard.state.deeds.filterMap Deed.made?).Nodup := by decide
  have hexact := exact_iff_takesOwn handlers () (moves ++ [.publish rulesChanged])
  refine ⟨hnodup, (hexact.2.2.2 moves rulesChanged [] rfl).2 (hexact.2.2.1 (by decide))⟩

/-- A function that is called again takes back the other subscription of its handler. And a function
    takes back the first subscription of its handler in place of its own, which changes
    the order. -/
theorem exists_not_takesOwn :
    let quiet : Handlers Bool Unit := fun _ _ exchange => pure (.ok (), [], exchange.rest)
    let one : Subscription Bool := ⟨rulesChanged, false⟩
    let other : Subscription Bool := ⟨rulesChanged, true⟩
    let again := run quiet () [.deed (.subscribe one), .deed (.subscribe one), .deed (.undo 0),
      .deed (.undo 0), .publish rulesChanged]
    let last := run quiet () [.deed (.subscribe one), .deed (.subscribe other),
      .deed (.subscribe one), .deed (.undo 2), .publish rulesChanged]
    (standing again.state.register.entries = [one] ∧ again.calls = []) ∧
      standing last.state.register.entries = [one, other] ∧ last.calls = [other, one] := by
  decide

end Exchange

end AllowPolicy.Bus
