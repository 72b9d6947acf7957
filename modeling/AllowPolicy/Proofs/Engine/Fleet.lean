import AllowPolicy.Proofs.Bus.Delivery
import AllowPolicy.Proofs.Engine.Refresh
import Mathlib.Logic.Function.Basic

namespace AllowPolicy.Engine

/-- What engines on one bus find around them: the handlers of others, which may look at the engines,
    and for each engine the time and a timer. `ω` is all that they act on. -/
structure Surroundings (κ ι η ω : Type) where
  handle : η → String → (κ → Engine ι) → Act ω (Outcome Unit)
  now : κ → ω → Float
  schedule : κ → Float → Act ω Unit
  cancelAll : κ → Act ω Unit

/-- The handler of an engine, or another one. -/
inductive Handler (κ η : Type) where
  | own (name : κ)
  | other (handler : η)
  deriving DecidableEq

/-- Engines with names, and the bus that they share. -/
structure Fleet (κ ι η ω : Type) where
  engine : κ → Engine ι
  bus : Bus (Handler κ η)
  rest : ω

namespace Fleet

/-- What is done with a fleet. An engine is started or closed, an event is published, somebody else
    changes or closes the store of an engine, another handler comes or goes, or time passes. -/
inductive Call (κ η ω : Type) where
  | start (name : κ)
  | close (name : κ)
  | publish (event : String)
  | edit (name : κ) (change : Store → Store)
  | join (subscription : Subscription η)
  | leave (subscription : Subscription η)
  | pass (change : ω → ω)

variable {κ ι η ω : Type}

/-- A fleet of engines that were never started. Only others have subscriptions. -/
def idle (engine : κ → Engine ι) (others : List (Subscription η)) (rest : ω) : Fleet κ ι η ω where
  engine name := { engine name with lock := {}, listening := false }
  bus := ⟨others.map fun other => ⟨other.event, .other other.handler⟩⟩
  rest

/-- Two engines that only their settings and their toggles tell apart. -/
structure Same (a b : Engine ι) : Prop extends Alike a b where
  listening : a.listening = b.listening

theorem Same.refl (engine : Engine ι) : Same engine engine :=
  ⟨⟨rfl, rfl, rfl, rfl, rfl⟩, rfl⟩

theorem Same.trans {a b c : Engine ι} (hfirst : Same a b) (hsecond : Same b c) : Same a c :=
  ⟨⟨hfirst.resolver.trans hsecond.resolver, hfirst.store.trans hsecond.store,
    hfirst.lock.trans hsecond.lock, hfirst.overrides.trans hsecond.overrides,
    hfirst.allowlist.trans hsecond.allowlist⟩, hfirst.listening.trans hsecond.listening⟩

theorem Same.symm {a b : Engine ι} (hsame : Same a b) : Same b a :=
  ⟨⟨hsame.resolver.symm, hsame.store.symm, hsame.lock.symm, hsame.overrides.symm,
    hsame.allowlist.symm⟩, hsame.listening.symm⟩

theorem Same.of_alike {a b : Engine ι} (halike : Alike a b) {listening : Bool}
    (hlistening : a.listening = listening) : Same a { b with listening } :=
  ⟨⟨halike.resolver, halike.store, halike.lock, halike.overrides, halike.allowlist⟩, hlistening⟩

theorem Same.switched {a b : Engine ι} (hsame : Same a b) (toggle : Toggle Float) :
    Same { a with toggle } b :=
  ⟨⟨hsame.resolver, hsame.store, hsame.lock, hsame.overrides, hsame.allowlist⟩, hsame.listening⟩

/-- A started engine listens, even if its stored rules cannot be loaded. -/
def started (engine : Engine ι) : Engine ι := { (refreshed engine).2 with listening := true }

def ended (engine : Engine ι) : Engine ι :=
  { engine with listening := false, store := engine.store.close }

def edited (change : Store → Store) (engine : Engine ι) : Engine ι :=
  { engine with store := change engine.store }

section

variable [DecidableEq κ]

/-- The fleet once an engine hears of updates. -/
def listened (fleet : Fleet κ ι η ω) (name : κ) : Fleet κ ι η ω :=
  if (fleet.engine name).listening then fleet
  else
    { fleet with
      engine := Function.update fleet.engine name { fleet.engine name with listening := true }
      bus := fleet.bus.subscribe ⟨rulesUpdate, .own name⟩ }

theorem engine_listened (fleet : Fleet κ ι η ω) (name : κ) :
    (fleet.listened name).engine =
      Function.update fleet.engine name { fleet.engine name with listening := true } := by
  unfold listened
  split
  · next hlistening =>
    rw [← hlistening]
    exact (Function.update_eq_self name fleet.engine).symm
  · rfl

variable [DecidableEq η]

/-- The fleet once an engine hears of no more updates. -/
def ignored (fleet : Fleet κ ι η ω) (name : κ) : Fleet κ ι η ω :=
  if (fleet.engine name).listening then
    { fleet with
      engine := Function.update fleet.engine name { fleet.engine name with listening := false }
      bus := fleet.bus.unsubscribe ⟨rulesUpdate, .own name⟩ }
  else fleet

theorem engine_ignored (fleet : Fleet κ ι η ω) (name : κ) :
    (fleet.ignored name).engine =
      Function.update fleet.engine name { fleet.engine name with listening := false } := by
  unfold ignored
  split
  · rfl
  · next hlistening =>
    rw [Bool.not_eq_true] at hlistening
    rw [← hlistening]
    exact (Function.update_eq_self name fleet.engine).symm

/-- The engines once those whose handlers are among some have refreshed. -/
def updated (handlers : List (Handler κ η)) (engine : κ → Engine ι) (name : κ) : Engine ι :=
  if .own name ∈ handlers then (refreshed (engine name)).2 else engine name

theorem lock_updated (handlers : List (Handler κ η)) (engine : κ → Engine ι) (name : κ) :
    (updated handlers engine name).lock = (engine name).lock := by
  unfold updated
  split
  · exact lock_refreshed _
  · rfl

theorem listening_updated (handlers : List (Handler κ η)) (engine : κ → Engine ι) (name : κ) :
    (updated handlers engine name).listening = (engine name).listening := by
  unfold updated
  split
  · exact listening_refreshed _
  · rfl

@[simp] theorem updated_nil (engine : κ → Engine ι) :
    updated ([] : List (Handler κ η)) engine = engine := by
  funext name
  simp [updated]

@[simp] theorem updated_other (handler : η) (engine : κ → Engine ι) :
    updated [.other handler] engine = engine := by
  funext name
  simp [updated]

/-- It makes no difference how often an engine refreshes. -/
theorem updated_cons (handler : Handler κ η) (others : List (Handler κ η))
    (engine : κ → Engine ι) :
    updated others (updated [handler] engine) = updated (handler :: others) engine := by
  funext name
  unfold updated
  by_cases hhandler : handler = .own name
  · simp [hhandler, refreshed_refreshed]
  · simp [Ne.symm hhandler]

end

variable [DecidableEq κ] [DecidableEq ι]

def elsewhere {α : Type} (action : (κ → Engine ι) → Act ω α) : Act (Fleet κ ι η ω) α := do
  let fleet ← get
  let (result, rest) ← ((action fleet.engine).run fleet.rest : Logged _)
  set { fleet with rest }
  pure result

/-- The site of an engine, on a thread, before the handlers are known. -/
def mute (around : Surroundings κ ι η ω) (thread : ι) (name : κ) :
    Site (Fleet κ ι η ω) ι (Handler κ η) where
  engine fleet := fleet.engine name
  put engine fleet := { fleet with engine := Function.update fleet.engine name engine }
  bus := (·.bus)
  putBus bus fleet := { fleet with bus }
  handler := .own name
  call _ _ := pure (.ok ())
  thread
  now fleet := around.now name fleet.rest
  schedule moment := elsewhere fun _ => around.schedule name moment
  cancelAll := elsewhere fun _ => around.cancelAll name

def call (around : Surroundings κ ι η ω) (thread : ι) (handler : Handler κ η) (event : String) :
    Act (Fleet κ ι η ω) (Outcome Unit) :=
  match handler with
  | .own name => (mute around thread name).onUpdate
  | .other other => elsewhere (around.handle other event)

def site (around : Surroundings κ ι η ω) (thread : ι) (name : κ) :
    Site (Fleet κ ι η ω) ι (Handler κ η) :=
  { mute around thread name with call := call around thread }

theorem run_act {α : Type} (around : Surroundings κ ι η ω) (thread : ι) (name : κ)
    (action : Act (Engine ι) α) (fleet : Fleet κ ι η ω) :
    (((site around thread name).act action).run fleet).value =
      ((action.run (fleet.engine name)).value.1,
        { fleet with
          engine := Function.update fleet.engine name (action.run (fleet.engine name)).value.2 }) :=
  rfl

theorem run_listen (around : Surroundings κ ι η ω) (thread : ι) (name : κ)
    (fleet : Fleet κ ι η ω) :
    (((site around thread name).listen).run fleet).value = ((), fleet.listened name) := by
  by_cases hlistening : (fleet.engine name).listening
  · simp [Site.listen, site, mute, hlistening, listened]
  · simp [Site.listen, Site.act, Site.subscription, site, mute, hlistening, listened]

theorem run_toggle (around : Surroundings κ ι η ω) (thread : ι) (name : κ)
    (fleet : Fleet κ ι η ω) :
    ∃ toggle rest, (((site around thread name).toggle.start).run fleet).value.2 =
      { fleet with
        engine := Function.update fleet.engine name { fleet.engine name with toggle }
        rest } := by
  let moment := around.now name fleet.rest + (fleet.engine name).toggle.interval
  refine ⟨{ (fleet.engine name).toggle with stopped := false, next := some moment },
    ((around.schedule name moment).run fleet.rest).value.2, ?_⟩
  simp [Toggle.Site.start, Toggle.Site.scheduleNext, Toggle.Site.update, Site.toggle, site, mute,
    elsewhere, moment]

/-- To start is to hear of updates and to refresh, whether that works or not. -/
theorem run_start (around : Surroundings κ ι η ω) (thread : ι) (name : κ)
    {fleet : Fleet κ ι η ω} (hunused : (fleet.engine name).lock = {}) :
    ∃ engine rest, (((site around thread name).start).run fleet).value.2 =
        { engine := Function.update fleet.engine name engine
          bus := (fleet.listened name).bus
          rest } ∧
      Same engine (started (fleet.engine name)) := by
  have hengine := fleet.engine_listened name
  have hthread : (site around thread name).thread = thread := rfl
  have halike : Alike { fleet.engine name with listening := true } (fleet.engine name) :=
    ⟨rfl, rfl, rfl, rfl, rfl⟩
  have hrefreshed := halike.refreshed
  have hlistening := listening_refreshed { fleet.engine name with listening := true }
  simp only [Site.start, StateT.run_bind, Logged.value_bind, run_act, run_listen, hengine,
    Function.update_self, Function.update_idem, hthread]
  rw [refresh_unused thread (halike.lock.trans hunused)]
  generalize refreshed { fleet.engine name with listening := true } = result
    at hrefreshed hlistening ⊢
  have hsame := Same.of_alike hrefreshed hlistening
  obtain ⟨failure | report, after⟩ := result
  · exact ⟨after, _, rfl, hsame⟩
  · simp only [StateT.run_bind, StateT.run_get, Logged.value_bind, Logged.value_pure]
    split
    · obtain ⟨toggle, rest, htoggle⟩ := run_toggle around thread name
        { fleet.listened name with engine := Function.update fleet.engine name after }
      simp only [Function.update_self, Function.update_idem] at htoggle
      exact ⟨{ after with toggle }, rest, htoggle, hsame.switched toggle⟩
    · exact ⟨after, _, rfl, hsame⟩

variable [DecidableEq η]

theorem run_ignore (around : Surroundings κ ι η ω) (thread : ι) (name : κ)
    (fleet : Fleet κ ι η ω) :
    (((site around thread name).ignore).run fleet).value = ((), fleet.ignored name) := by
  by_cases hlistening : (fleet.engine name).listening
  · simp [Site.ignore, Site.act, Site.subscription, site, mute, hlistening, ignored]
  · simp [Site.ignore, site, mute, hlistening, ignored]

/-- To close is to hear of no more updates and to close the store. -/
theorem run_close (around : Surroundings κ ι η ω) (thread : ι) (name : κ)
    (fleet : Fleet κ ι η ω) :
    ∃ engine rest, (((site around thread name).close).run fleet).value.2 =
        { engine := Function.update fleet.engine name engine
          bus := (fleet.ignored name).bus
          rest } ∧
      Same engine (ended (fleet.engine name)) := by
  have hengine := fleet.engine_ignored name
  let toggle := { (fleet.engine name).toggle with stopped := true }
  refine ⟨{ ended (fleet.engine name) with toggle },
    ((around.cancelAll name).run (fleet.ignored name).rest).value.2, ?_, (Same.refl _).switched _⟩
  simp only [Site.close, StateT.run_bind, Logged.value_bind, run_ignore]
  simp [Toggle.Site.stop, Toggle.Site.update, Site.toggle, Site.act, site, mute,
    elsewhere, hengine, ended, toggle]

theorem run_call (around : Surroundings κ ι η ω) (thread : ι) (handler : Handler κ η)
    (event : String) {fleet : Fleet κ ι η ω} (hunused : ∀ name, (fleet.engine name).lock = {}) :
    ∃ rest, ((call around thread handler event).run fleet).value.2 =
      { fleet with engine := updated [handler] fleet.engine, rest } := by
  cases handler with
  | own called =>
    refine ⟨fleet.rest, ?_⟩
    have hcall : ((call around thread (.own called) event).run fleet).value.2 =
      { fleet with
        engine := Function.update fleet.engine called
          ((refresh thread).run (fleet.engine called)).value.2 } := rfl
    rw [hcall, refresh_unused thread (hunused called)]
    congr 1
    funext name
    by_cases hname : name = called
    · simp [updated, hname]
    · simp [updated, hname]
  | other other =>
    refine ⟨((around.handle other event fleet.engine).run fleet.rest).value.2, ?_⟩
    rw [updated_other]
    rfl

/-- The engines whose handlers are called refresh, whatever comes of the calls of others. -/
theorem run_deliver (around : Surroundings κ ι η ω) (thread : ι) (event : String)
    (handlers : List (Handler κ η)) {fleet : Fleet κ ι η ω}
    (hunused : ∀ name, (fleet.engine name).lock = {}) :
    ∃ rest, ((Bus.deliver (call around thread · event) event handlers).run fleet).value.2 =
      { fleet with engine := updated handlers fleet.engine, rest } := by
  induction handlers generalizing fleet with
  | nil => exact ⟨fleet.rest, by simp [Bus.deliver]⟩
  | cons handler others ih =>
    obtain ⟨rest, hcall⟩ := run_call around thread handler event hunused
    rw [Bus.run_deliver_cons, hcall]
    -- The other handlers find nobody inside an engine.
    have hnext (name : κ) : (updated [handler] fleet.engine name).lock = {} :=
      (lock_updated ..).trans (hunused name)
    obtain ⟨rest', hothers⟩ :=
      @ih { fleet with engine := updated [handler] fleet.engine, rest } hnext
    exact ⟨rest', by rw [hothers, updated_cons]⟩

def Call.act (around : Surroundings κ ι η ω) (thread : ι) : Call κ η ω → Act (Fleet κ ι η ω) Unit
  | .start name => discard (site around thread name).start
  | .close name => (site around thread name).close
  | .publish event => discard (Bus.publish (·.bus) (call around thread) event)
  | .edit name change => (site around thread name).act (modify (edited change))
  | .join other => modify fun fleet =>
      { fleet with bus := fleet.bus.subscribe ⟨other.event, .other other.handler⟩ }
  | .leave other => modify fun fleet =>
      { fleet with bus := fleet.bus.unsubscribe ⟨other.event, .other other.handler⟩ }
  | .pass change => modify fun fleet => { fleet with rest := change fleet.rest }

def perform (around : Surroundings κ ι η ω) (fleet : Fleet κ ι η ω) (made : ι × Call κ η ω) :
    Fleet κ ι η ω :=
  ((made.2.act around made.1).run fleet).value.2

/-- The fleet after some calls, one after another, each on a thread. -/
def run (around : Surroundings κ ι η ω) (fleet : Fleet κ ι η ω) (calls : List (ι × Call κ η ω)) :
    Fleet κ ι η ω :=
  calls.foldl (perform around) fleet

end Fleet

end AllowPolicy.Engine
