import AllowPolicy.Bus
import AllowPolicy.Decimal.Fixed
import AllowPolicy.Loading
import AllowPolicy.Settings
import AllowPolicy.Store
import AllowPolicy.Toggle

namespace AllowPolicy

/-- The rules in force and all that keeps them up to date. `ι` are the threads that use it. -/
structure Engine (ι : Type) where
  settings : Settings
  resolver : Resolver
  store : Store
  /-- Keeps changes of the stored rules and loads of them apart. -/
  lock : Lock ι := {}
  /-- The overrides in force. -/
  overrides : Overrides (Option String) Verdict := {}
  /-- The rules of the last good load. -/
  allowlist : Allowlist := {}
  toggle : Toggle Float
  /-- The engine hears of updates. -/
  listening : Bool := false

namespace Engine

variable {ι : Type}

/-- An engine on a store. -/
def make (settings : Settings) (resolver : Resolver) (store : Store) : Outcome (Engine ι) := do
  let toggle ← Toggle.make settings.toggle.interval settings.toggle.startEnabled
  pure { settings, resolver, store, toggle }

def onStore {α : Type} (op : Store.Op α) : Act (Engine ι) (Outcome α) := do
  let engine ← get
  let (result, store) := op.run.run engine.store
  set { engine with store }
  pure result

/-- The rules in force in the store, as a source for a load. -/
def rows (store : Store) : Rows :=
  match (Store.enactedRules.run.run store).1 with
  | .ok rules => rules.map fun (_, text) => .ok (.ofText text)
  | .error failure => [.error failure]

/-- The decision for an application on a network. -/
def query (engine : Engine ι) (on : Connectivity) (name : Option String) (default : Verdict) :
    Verdict :=
  engine.overrides.query on name default

/-- Some rule in force allows the destination to an identity. -/
def isAllowed (engine : Engine ι) (uid : Int) (target : Destination) : Bool :=
  engine.allowlist.isAllowed uid target

/-- Sets an override, in the store and then in force. -/
def setOverride [Surrogates] (name : Option String) (verdict : Verdict) :
    Act (Engine ι) (Outcome Unit) := do
  match ← onStore (Store.setOverride name verdict.toInt) with
  | .error failure => pure (.error failure)
  | .ok () =>
    modify fun engine => { engine with overrides := engine.overrides.set name verdict }
    pure (.ok ())

/-- Removes an override, in the store and then in force, and tells whether the store had it. -/
def removeOverride [Surrogates] (name : Option String) : Act (Engine ι) (Outcome Bool) := do
  match ← onStore (Store.removeOverride name) with
  | .error failure => pure (.error failure)
  | .ok removed =>
    modify fun engine => { engine with overrides := engine.overrides.remove name }
    pure (.ok removed)

/-- Puts freshly loaded rules in force, together with the stored overrides. If those cannot be
    read, everything stays as it is. -/
def adopt (fresh : Allowlist) : Act (Engine ι) (Outcome Unit) := do
  match ← onStore Store.overrides with
  | .error failure => pure (.error failure)
  | .ok stored =>
    let overrides := ⟨stored.entries.map fun (name, allowed) => (name, .flag allowed)⟩
    modify fun engine => { engine with overrides, allowlist := fresh }
    pure (.ok ())

variable [DecidableEq ι]

/-- Loads the rules in force in the store into a sink: the report, and the sink afterwards. -/
def load [Surrogates] {σ : Type} (thread : ι) (sink : Sink σ) (state : σ) :
    Act (Engine ι) (Outcome LoadReport × σ) := do
  let engine ← get
  match Loading.load engine.lock thread sink engine.resolver (rows engine.store) state with
  | .error failure => pure (.error failure, state)
  | .ok (lock, loaded) =>
    set { engine with lock }
    let (ending, after) ← (loaded : Logged _)
    pure (ending.result, after)

/-- Loads the stored rules anew and puts them in force. The rules and overrides in force stay as
    they are if anything fails. -/
def refresh [Surrogates] (thread : ι) : Act (Engine ι) (Outcome LoadReport) := do
  match ← load thread Allowlist.sink {} with
  | (.error failure, _) => pure (.error failure)
  | (.ok report, fresh) =>
    match ← adopt fresh with
    | .error failure => pure (.error failure)
    | .ok () => pure (.ok report)

/-- Uses the store while no load runs. -/
def exclusively {α : Type} (thread : ι) (op : Store.Op α) : Act (Engine ι) (Outcome α) := do
  let engine ← get
  match engine.lock.excluding thread fun _ => op.run.run engine.store with
  | .error failure => pure (.error failure)
  | .ok (lock, result, store) =>
    set { engine with lock, store }
    pure result

def addRule [Surrogates] (thread : ι) (text : Value) (enacted : Int) :
    Act (Engine ι) (Outcome Int) :=
  exclusively thread (Store.addRule text enacted)

def setEnacted (thread : ι) (id enacted : Int) : Act (Engine ι) (Outcome Bool) :=
  exclusively thread (Store.setEnacted id enacted)

def replaceRules [Surrogates] (thread : ι) (texts : List Value) : Act (Engine ι) (Outcome Nat) :=
  exclusively thread (Store.replaceRules texts)

/-- Where an engine stands: how it and its bus are reached in the state around it, which handler on
    the bus is its own and how handlers are called, on which thread it runs, what the time is, and
    how a timer is used there. -/
structure Site (σ ι η : Type) where
  engine : σ → Engine ι
  put : Engine ι → σ → σ
  bus : σ → Bus η
  putBus : Bus η → σ → σ
  handler : η
  call : η → String → Act σ (Outcome Unit)
  thread : ι
  now : σ → Float
  schedule : Float → Act σ Unit
  cancelAll : Act σ Unit

namespace Site

variable {σ η : Type} [DecidableEq η]

def act {α : Type} (site : Site σ ι η) (action : Act (Engine ι) α) : Act σ α := do
  let (result, engine) ← (action.run (site.engine (← get)) : Logged _)
  modify (site.put engine)
  pure result

/-- The toggle of the engine in the state around it. Its flips are published on the bus. -/
def toggle (site : Site σ ι η) : Toggle.Site σ Float where
  toggle state := (site.engine state).toggle
  put toggle state := site.put { site.engine state with toggle } state
  now := site.now
  schedule := site.schedule
  announce := discard (Bus.publish site.bus site.call rulesChanged)

/-- The subscription of the engine to updates. -/
def subscription (site : Site σ ι η) : Subscription η := ⟨rulesUpdate, site.handler⟩

/-- Hears of updates from now on. -/
def listen (site : Site σ ι η) : Act σ Unit := do
  let state ← get
  if (site.engine state).listening then pure ()
  else
    modify (site.putBus ((site.bus state).subscribe site.subscription))
    site.act (modify fun engine => { engine with listening := true })

/-- Hears of no more updates. -/
def ignore (site : Site σ ι η) : Act σ Unit := do
  let state ← get
  if (site.engine state).listening then
    modify (site.putBus ((site.bus state).unsubscribe site.subscription))
    site.act (modify fun engine => { engine with listening := false })
  else pure ()

/-- What the engine's own handler does on an update. -/
def onUpdate (site : Site σ ι η) : Act σ (Outcome Unit) := do
  pure ((← site.act (refresh site.thread)).map fun _ => ())

/-- Starts the engine: it hears of updates, loads the stored rules and, if the settings say so,
    begins to toggle. -/
def start (site : Site σ ι η) : Act σ (Outcome LoadReport) := do
  site.listen
  match ← site.act (refresh site.thread) with
  | .error failure => pure (.error failure)
  | .ok report =>
    if (site.engine (← get)).settings.toggle.enabled then
      let first ← site.toggle.start
      log .info ("Toggle testing mode on, first flip at " ++ Decimal.fixed 3 first)
    pure (.ok report)

/-- Closes the engine: it hears of no more updates, stops to toggle and closes the store. -/
def close (site : Site σ ι η) : Act σ Unit := do
  site.ignore
  site.toggle.stop
  site.cancelAll
  site.act (modify fun engine => { engine with store := engine.store.close })

end Site

end Engine

end AllowPolicy
