import AllowPolicy.Proofs.Bus.Delivery
import AllowPolicy.Proofs.Engine.Refresh

namespace AllowPolicy.Engine

/-- What an engine finds around it: the handlers of others, which may look at the engine, the time,
    and a timer. `ω` is all that they act on. -/
structure Around (ι η ω : Type) where
  handle : η → String → Engine ι → Act ω (Outcome Unit)
  now : ω → Float
  schedule : Float → Act ω Unit

/-- An engine and its bus among others. The engine's own handler is the one without a name. -/
structure Host (ι η ω : Type) where
  engine : Engine ι
  bus : Bus (Option η)
  rest : ω

namespace Host

variable {ι η ω : Type}

def elsewhere {α : Type} (action : Engine ι → Act ω α) : Act (Host ι η ω) α := do
  let host ← get
  let (result, rest) ← ((action host.engine).run host.rest : Logged _)
  set { host with rest }
  pure result

/-- The host once the engine hears of updates. -/
def listened (host : Host ι η ω) : Host ι η ω :=
  if host.engine.listening then host
  else
    { host with
      engine := { host.engine with listening := true }
      bus := host.bus.subscribe ⟨rulesUpdate, none⟩ }

theorem alike_listened (host : Host ι η ω) : Alike host.listened.engine host.engine := by
  unfold listened
  split <;> exact ⟨rfl, rfl, rfl, rfl, rfl⟩

theorem listening_listened (host : Host ι η ω) : host.listened.engine.listening = true := by
  unfold listened
  split
  · assumption
  · rfl

variable [DecidableEq ι]

/-- The site of the engine, on a thread, before it has a handler. -/
def mute (around : Around ι η ω) (thread : ι) : Site (Host ι η ω) ι (Option η) where
  engine := (·.engine)
  put engine host := { host with engine }
  bus := (·.bus)
  putBus bus host := { host with bus }
  handler := none
  call _ _ := pure (.ok ())
  thread
  now host := around.now host.rest
  schedule moment := elsewhere fun _ => around.schedule moment
  cancelAll := pure ()

def site (around : Around ι η ω) (thread : ι) : Site (Host ι η ω) ι (Option η) :=
  { mute around thread with
    call := fun handler event =>
      match handler with
      | none => (mute around thread).onUpdate
      | some other => elsewhere (around.handle other event) }

theorem run_act {α : Type} (around : Around ι η ω) (thread : ι) (action : Act (Engine ι) α)
    (host : Host ι η ω) :
    (((site around thread).act action).run host).value =
      ((action.run host.engine).value.1,
        { host with engine := (action.run host.engine).value.2 }) := rfl

/-- The engine's own handler refreshes; other handlers leave the engine alone. -/
theorem run_call (around : Around ι η ω) (thread : ι) (handler : Option η) (event : String)
    {host : Host ι η ω} (hunused : host.engine.lock = {}) :
    ∃ rest, (((site around thread).call handler event).run host).value.2 =
      { host with
        engine := if handler.isNone then (refreshed host.engine).2 else host.engine
        rest } := by
  cases handler with
  | none =>
    rw [Option.isNone_none, if_pos rfl, ← refresh_unused thread hunused]
    exact ⟨host.rest, rfl⟩
  | some other => exact ⟨_, rfl⟩

/-- However often the engine's own handler is called, it comes to one refresh. A refresh that fails
    does not keep the event from the others. -/
theorem run_deliver (around : Around ι η ω) (thread : ι) (event : String)
    (handlers : List (Option η)) {host : Host ι η ω} (hunused : host.engine.lock = {}) :
    ∃ rest,
      ((Bus.deliver ((site around thread).call · event) event handlers).run host).value.2 =
        { host with
          engine := if handlers.any (·.isNone) then (refreshed host.engine).2 else host.engine
          rest } := by
  induction handlers generalizing host with
  | nil => exact ⟨host.rest, rfl⟩
  | cons handler others ih =>
    obtain ⟨rest, hcall⟩ := run_call around thread handler event hunused
    rw [Bus.run_deliver_cons, hcall]
    cases handler with
    | none =>
      rw [Option.isNone_none, if_pos rfl]
      -- The other handlers find the store as it was, and nobody at the lock.
      have hnext : ({ host with engine := (refreshed host.engine).2, rest } :
          Host ι η ω).engine.lock = {} := by rw [lock_refreshed, hunused]
      obtain ⟨rest', hothers⟩ := ih hnext
      refine ⟨rest', ?_⟩
      rw [hothers, refreshed_refreshed]
      simp
    | some other => exact ih hunused

theorem run_listen (around : Around ι η ω) (thread : ι) (host : Host ι η ω) :
    (((site around thread).listen).run host).value = ((), host.listened) := by
  by_cases hlistening : host.engine.listening
  · simp [Site.listen, site, mute, hlistening, listened]
  · simp [Site.listen, Site.act, Site.subscription, site, mute, hlistening, listened]

theorem run_toggle (around : Around ι η ω) (thread : ι) (host : Host ι η ω) :
    ∃ toggle rest, (((site around thread).toggle.start).run host).value.2 =
      { host with engine := { host.engine with toggle }, rest } :=
  ⟨_, _, rfl⟩

/-- To start is to listen and to refresh, as far as what is in force is concerned. -/
theorem run_start (around : Around ι η ω) (thread : ι) {host : Host ι η ω}
    (hunused : host.engine.lock = {}) :
    ∃ engine rest, (((site around thread).start).run host).value.2 =
        { engine, bus := host.listened.bus, rest } ∧
      Alike engine (refreshed host.engine).2 ∧ engine.listening = true := by
  have hrefreshed := host.alike_listened.refreshed
  have hlistening := listening_refreshed host.listened.engine
  rw [listening_listened] at hlistening
  have hthread : (site around thread).thread = thread := rfl
  simp only [Site.start, StateT.run_bind, Logged.value_bind, run_act, run_listen]
  rw [hthread, refresh_unused thread (host.alike_listened.lock.trans hunused)]
  generalize refreshed host.listened.engine = result at hrefreshed hlistening ⊢
  obtain ⟨failure | report, after⟩ := result
  · exact ⟨after, _, rfl, hrefreshed, hlistening⟩
  · simp only [StateT.run_bind, StateT.run_get, Logged.value_bind, Logged.value_pure]
    split
    · obtain ⟨toggle, rest, htoggle⟩ :=
        run_toggle around thread { host.listened with engine := after }
      refine ⟨{ after with toggle }, rest, htoggle, ?_, hlistening⟩
      exact ⟨hrefreshed.resolver, hrefreshed.store, hrefreshed.lock, hrefreshed.overrides,
        hrefreshed.allowlist⟩
    · exact ⟨after, _, rfl, hrefreshed, hlistening⟩

/-- It goes through exactly if the refresh does, and then the stored overrides are in force. -/
theorem overrides_of_start {around : Around ι η ω} {thread : ι} {host after : Host ι η ω}
    (hunused : host.engine.lock = {}) {report : LoadReport}
    (hstart : (((site around thread).start).run host).value = (.ok report, after)) :
    ∃ stored, (Store.overrides.run.run host.engine.store).1 = .ok stored ∧
      after.engine.overrides = inForce stored := by
  obtain ⟨engine, rest, hrun, halike, _⟩ := run_start around thread hunused
  have hthread : (site around thread).thread = thread := rfl
  have hresult : (refreshed host.engine).1.isOk = true := by
    rw [← host.alike_listened.refreshed_fst]
    simp only [Site.start, StateT.run_bind, Logged.value_bind, run_act, run_listen] at hstart
    rw [hthread, refresh_unused thread (host.alike_listened.lock.trans hunused)] at hstart
    cases hrefreshed : (refreshed host.listened.engine).1 with
    | ok other => rfl
    | error failure =>
      simp only [hrefreshed] at hstart
      cases hstart
  rw [hstart] at hrun
  rcases refreshed_cases host.engine with ⟨failure, hfailed⟩ | ⟨_, fresh, stored, _, hread, hdone⟩
  · rw [hfailed] at hresult
    cases hresult
  · rw [hdone] at halike
    have hafter : after.engine = engine := congrArg Host.engine hrun
    exact ⟨stored, hread, hafter ▸ halike.overrides⟩

end Host

end AllowPolicy.Engine
