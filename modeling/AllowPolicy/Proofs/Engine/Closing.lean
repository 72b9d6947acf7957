import AllowPolicy.Proofs.Bus.Delivery
import AllowPolicy.Proofs.Engine.Host
import AllowPolicy.Proofs.Timer.Pending

namespace AllowPolicy.Engine

/-- A timer for one engine, and the time that both go by. -/
structure Clockwork where
  timer : Timer Float Unit := {}
  time : Float := 0

namespace Host

variable {ι η : Type}

/-- What a handler does may be anything that can be done with the host, its toggle and its timer. -/
abbrev Calls (ι η : Type) := Option η → String → Act (Host ι η Clockwork) (Outcome Unit)

/-- The site of an engine with a timer of its own. -/
def timed (calls : Calls ι η) (thread : ι) : Site (Host ι η Clockwork) ι (Option η) where
  engine := (·.engine)
  put engine host := { host with engine }
  bus := (·.bus)
  putBus bus host := { host with bus }
  handler := none
  call := calls
  thread
  now host := host.rest.time
  schedule moment := modify fun host =>
    { host with rest.timer := host.rest.timer.schedule host.rest.time moment () }
  cancelAll := modify fun host => { host with rest.timer := host.rest.timer.cancelAll }

/-- The host when the switch is flipped. -/
def flipped (host : Host ι η Clockwork) : Host ι η Clockwork :=
  let toggle := { host.engine.toggle.flip with firings := host.engine.toggle.firings + 1 }
  { host with engine := { host.engine with toggle } }

/-- The host when the next flip is scheduled. -/
def scheduled (host : Host ι η Clockwork) : Host ι η Clockwork :=
  let moment := host.rest.time + host.engine.toggle.interval
  { host with
    engine := { host.engine with toggle := { host.engine.toggle with next := some moment } }
    rest.timer := host.rest.timer.schedule host.rest.time moment () }

variable {calls : Calls ι η} {thread : ι} {host : Host ι η Clockwork}

/-- An effective firing flips, calls the handlers in turn and schedules the next. -/
theorem run_fire (calls : Calls ι η) (thread : ι) (hgoing : host.engine.toggle.stopped = false) :
    ((timed calls thread).toggle.fire.run host).value.2 =
      ((host.bus.handlers rulesChanged).foldl
        (fun host handler => ((calls handler rulesChanged).run host).value.2)
        host.flipped).scheduled := by
  let site := (timed calls thread).toggle
  change ((if host.engine.toggle.stopped then (pure () : Act (Host ι η Clockwork) Unit) else _).run
    host).value.2 = _
  rw [if_neg (by simp [hgoing])]
  change (site.scheduleNext.run
    ((Bus.publish (·.bus) calls rulesChanged).run host.flipped).value.2).value.2 = _
  rw [Bus.run_publish, Bus.run_deliver_eq_foldl]
  rfl

section Close

variable [DecidableEq η]

/-- The host when the engine is closed. -/
def closed (host : Host ι η Clockwork) : Host ι η Clockwork where
  engine :=
    { host.engine with
      listening := false
      toggle := { host.engine.toggle with stopped := true }
      store := host.engine.store.close }
  bus := if host.engine.listening then host.bus.unsubscribe ⟨rulesUpdate, none⟩ else host.bus
  rest := { host.rest with timer := host.rest.timer.cancelAll }

theorem run_close (calls : Calls ι η) (thread : ι) (host : Host ι η Clockwork) :
    ((timed calls thread).close.run host).value = ((), host.closed) := by
  cases hlistening : host.engine.listening
  · simp [Site.close, Site.ignore, Site.act, timed, Toggle.Site.stop, Toggle.Site.update,
      Site.toggle, closed, hlistening]
  · simp [Site.close, Site.ignore, Site.act, Site.subscription, timed, Toggle.Site.stop,
      Toggle.Site.update, Site.toggle, closed, hlistening]

/-- A firing at which the last handler closes the engine leaves a run pending. -/
theorem pending_fire_closed (hgoing : host.engine.toggle.stopped = false)
    {others : List (Option η)} {closer : Option η}
    (hhandlers : host.bus.handlers rulesChanged = others ++ [closer])
    (hcloser : calls closer rulesChanged = do
      (timed calls thread).close
      pure (.ok ())) :
    let after := ((timed calls thread).toggle.fire.run host).value.2
    after.engine.toggle.stopped = true ∧ after.engine.store.isOpen = false ∧
      ∃ place, after.rest.timer.pending = [((), place)] ∧
        Timer.IsArmed after.rest.timer.runs place () := by
  intro after
  have hclosed (host : Host ι η Clockwork) :
      ((calls closer rulesChanged).run host).value.2 = host.closed := by
    rw [hcloser]
    exact congrArg Prod.snd (run_close calls thread host)
  have hafter : after = _ := run_fire calls thread hgoing
  rw [hhandlers, List.foldl_append, List.foldl_cons, List.foldl_nil, hclosed] at hafter
  rw [hafter]
  exact ⟨rfl, rfl, _, rfl, _, List.getElem?_concat_length, rfl, rfl⟩

/-- The first firing is due, and its only handler closes the engine. -/
theorem exists_pending_closed :
    let quiet : Calls Unit Unit := fun _ _ => pure (.ok ())
    let closing : Calls Unit Unit := fun _ _ => do
      (timed quiet ()).close
      pure (.ok ())
    let toggle := (timed closing ()).toggle
    let host : Host Unit Unit Clockwork :=
      { engine := onLines [], bus := ⟨[⟨rulesChanged, some ()⟩]⟩, rest := {} }
    let started := (toggle.start.run host).value.2
    let due := { started with rest.timer := (started.rest.timer.elapse 0 false).1 }
    let after := (toggle.fire.run due).value.2
    due.rest.timer.pending = [] ∧ after.engine.toggle.stopped = true ∧
      after.engine.store.isOpen = false ∧ after.rest.timer.pending = [((), 1)] :=
  ⟨rfl, rfl, rfl, rfl⟩

end Close

end Host

end AllowPolicy.Engine
