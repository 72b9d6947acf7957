import AllowPolicy.Proofs.Engine.Refresh
import AllowPolicy.Proofs.Engine.Traffic

namespace AllowPolicy

/-- The sink of one thread where every thread has one. -/
def Sink.own {ι σ : Type} [DecidableEq ι] (sink : Sink σ) (thread : ι) : Sink (ι → σ) where
  addGlobal rule := fun world =>
    let (answer, after) := sink.addGlobal rule (world thread)
    (answer, Function.update world thread after)
  addApp uid rule := fun world =>
    let (answer, after) := sink.addApp uid rule (world thread)
    (answer, Function.update world thread after)

namespace Engine

/-- What a thread does while it has the overrides for itself. -/
inductive Turn where
  /-- Puts the rules of a scan in force, together with the stored overrides. -/
  | publish (scan : Nat) (fresh : Allowlist)
  | set (name : String) (allowed : Bool)
  | remove (name : String)

/-- One change of what is in force. -/
inductive Update where
  | set (name : String) (allowed : Bool)
  | remove (name : String)
  | replace (stored : Overrides (Option String) Bool)
  | rules (scan : Nat) (fresh : Allowlist)

namespace Update

variable {ι : Type}

/-- The overrides in force afterwards. -/
def forces : Update → Overrides (Option String) Verdict → Overrides (Option String) Verdict
  | .set name allowed, overrides => overrides.set (some name) (.flag allowed)
  | .remove name, overrides => overrides.remove (some name)
  | .replace stored, _ => inForce stored
  | .rules _ _, overrides => overrides

def apply : Update → Engine ι → Engine ι
  | .rules _ fresh, engine => { engine with allowlist := fresh }
  | update, engine => { engine with overrides := update.forces engine.overrides }

/-- The scan whose rules are in force afterwards. -/
def shows : Update → Option Nat → Option Nat
  | .rules scan _, _ => some scan
  | _, shown => shown

end Update

namespace Turn

variable {ι : Type}

/-- The use of the store that a turn begins with: what is to change in force after it, and the
    store. Nothing is to change if it fails. -/
def begin (store : Store) : Turn → List Update × Store
  | .publish scan fresh =>
    match Store.overrides.run.run store with
    | (.ok stored, after) => ([.replace stored, .rules scan fresh], after)
    | (.error _, after) => ([], after)
  | .set name allowed =>
    match (Store.setOverride (some name) (Verdict.flag allowed).toInt).run.run store with
    | (.ok (), after) => ([.set name allowed], after)
    | (.error _, after) => ([], after)
  | .remove name =>
    match (Store.removeOverride (some name)).run.run store with
    | (.ok _, after) => ([.remove name], after)
    | (.error _, after) => ([], after)

theorem begin_publish (store : Store) (scan : Nat) (fresh : Allowlist) :
    (∃ table, store.overrideTable? = some table ∧ (Turn.publish scan fresh).begin store =
        ([.replace (Store.decisions table), .rules scan fresh], store)) ∨
      store.overrideTable? = none ∧ (Turn.publish scan fresh).begin store = ([], store) := by
  simp only [begin]
  rcases store.run_overrides with ⟨table, htable, hrun⟩ | ⟨hnone, failure, hrun⟩
  · exact .inl ⟨table, htable, by rw [hrun]⟩
  · exact .inr ⟨hnone, by rw [hrun]⟩

/-- What a turn is as a whole. -/
def act : Turn → Act (Engine ι) (Outcome Unit)
  | .publish _ fresh => adopt fresh
  | .set name allowed => setOverride (some name) (.flag allowed)
  | .remove name => do
    let result ← removeOverride (some name)
    pure (result.map fun _ => ())

/-- The steps of a turn make up the whole turn. -/
theorem run_act (turn : Turn) (engine : Engine ι) :
    (turn.act.run engine).value.2 =
      (turn.begin engine.store).1.foldl (fun engine update => update.apply engine)
        { engine with store := (turn.begin engine.store).2 } := by
  cases turn with
  | publish scan fresh =>
    rw [act, run_adopt, begin]
    rcases engine.store.run_overrides with ⟨table, _, hrun⟩ | ⟨_, failure, hrun⟩ <;>
      rw [hrun] <;> rfl
  | set name allowed =>
    simp only [act, begin, setOverride, onStore, StateT.run_bind, StateT.run_get,
      Logged.value_bind, Logged.value_pure]
    rcases (Store.setOverride (some name) (Verdict.flag allowed).toInt).run.run engine.store with
      ⟨_ | _, after⟩ <;> rfl
  | remove name =>
    simp only [act, begin, removeOverride, onStore, StateT.run_bind, StateT.run_get,
      Logged.value_bind, Logged.value_pure]
    rcases (Store.removeOverride (some name)).run.run engine.store with ⟨_ | _, after⟩ <;> rfl

end Turn

/-- A refresh begins to load into an empty allowlist. -/
def Traffic.refresh {ι : Type} [DecidableEq ι] (traffic : Traffic ι (ι → Allowlist)) (thread : ι) :
    Traffic ι (ι → Allowlist) :=
  (traffic.perform (.elsewhere (Function.update traffic.world thread {}))).perform
    (.load thread (Allowlist.sink.own thread))

/-- How far a thread has come. -/
inductive Stage where
  /-- It does nothing, or changes the stored rules. -/
  | free
  /-- It refreshes, and scans the stored rules. -/
  | loading
  /-- It waits for the overrides. -/
  | waiting (turn : Turn)
  /-- It has the overrides, and is about to use the store. -/
  | entered (turn : Turn)
  /-- It has the overrides, and this is left to do. -/
  | updating (rest : List Update)

namespace Stage

def isFree : Stage → Bool
  | .free => true
  | _ => false

theorem eq_free {stage : Stage} (hfree : stage.isFree = true) : stage = .free := by
  cases stage with
  | free => rfl
  | _ => cases hfree

/-- The thread has the overrides for itself. -/
def owns : Stage → Bool
  | .entered _ | .updating _ => true
  | _ => false

/-- What the thread has stored, or read, and is yet to put in force. -/
def pending : Stage → List Update
  | .updating rest => rest
  | _ => []

end Stage

/-- The change has used the store, and has neither saved it nor taken anything back. -/
def Task.isMidway {ω : Type} : Task ω → Bool
  | .changing change rest => rest.length < change.steps.length
  | .undoing _ => true
  | _ => false

/-- What a thread can call an engine for. -/
inductive Call where
  | refresh
  | change (change : Change)
  | set (name : String) (allowed : Bool)
  | remove (name : String)

/-- Threads that call one engine. They share its lock for the stored rules and another one for the
    overrides. -/
structure Callers (ι : Type) where
  /-- The loads and changes of the stored rules. Each thread has an allowlist of its own to load
      into. -/
  traffic : Traffic ι (ι → Allowlist)
  /-- The thread that has the overrides. -/
  owner : Option ι := none
  stage : ι → Stage := fun _ => .free
  /-- The store as every refresh has seen it that could scan it, the oldest first. -/
  scans : List Store := []
  /-- The scan whose rules are in force. -/
  shown : Option Nat := none

namespace Callers

/-- What happens: a thread that does nothing calls the engine, a thread that waits for its permit
    looks at the lock, or a thread takes its next step. -/
inductive Move (ι : Type) where
  | call (thread : ι) (call : Call)
  | look (thread : ι)
  | step (thread : ι)

variable {ι : Type} [DecidableEq ι]

def engine (callers : Callers ι) : Engine ι := callers.traffic.engine

/-- A thread has come to a stage. -/
def goTo (callers : Callers ι) (thread : ι) (stage : Stage) : Callers ι :=
  { callers with stage := Function.update callers.stage thread stage }

def onEngine (callers : Callers ι) (act : Engine ι → Engine ι) : Callers ι :=
  { callers with traffic := { callers.traffic with engine := act callers.traffic.engine } }

/-- Some thread is in the middle of a change of the stored rules. The store is its own
    until then. -/
def isMidway (callers : Callers ι) : Bool :=
  callers.engine.lock.writer.any fun thread => (callers.traffic.task thread).isMidway

def begin (callers : Callers ι) (thread : ι) : Call → Callers ι
  | .refresh =>
    { callers with traffic := callers.traffic.refresh thread }.goTo thread .loading
  | .change change => { callers with traffic := callers.traffic.perform (.change thread change) }
  | .set name allowed => callers.goTo thread (.waiting (.set name allowed))
  | .remove name => callers.goTo thread (.waiting (.remove name))

/-- A refresh goes on with its scan. Once its permit is given back it asks for the overrides, or is
    over if the scan has failed. -/
def scan (callers : Callers ι) (thread : ι) : Callers ι :=
  let traffic := callers.traffic.perform (.advance thread)
  match traffic.task thread with
  | .loaded (.ok _) _ =>
    { callers with traffic, scans := callers.scans ++ [callers.engine.store] }.goTo thread
      (.waiting (.publish callers.scans.length (traffic.world thread)))
  | .loaded (.error _) _ => { callers with traffic }.goTo thread .free
  | _ => { callers with traffic }

def step (callers : Callers ι) (thread : ι) : Callers ι :=
  match callers.stage thread with
  | .free => { callers with traffic := callers.traffic.perform (.advance thread) }
  | .loading => callers.scan thread
  | .waiting turn =>
    if callers.owner.isNone then { callers with owner := some thread }.goTo thread (.entered turn)
    else callers
  | .entered turn =>
    if callers.isMidway then callers
    else
      let (updates, store) := turn.begin callers.engine.store
      (callers.onEngine fun engine => { engine with store }).goTo thread (.updating updates)
  | .updating (update :: rest) =>
    { callers.onEngine update.apply with shown := update.shows callers.shown }.goTo thread
      (.updating rest)
  | .updating [] => { callers with owner := none }.goTo thread .free

/-- What a move leads to. A move that the thread cannot make now changes nothing. -/
def perform (callers : Callers ι) : Move ι → Callers ι
  | .call thread call =>
    if (callers.stage thread).isFree && (callers.traffic.task thread).isFree then
      callers.begin thread call
    else callers
  | .look thread => { callers with traffic := callers.traffic.perform (.look thread) }
  | .step thread => callers.step thread

/-- The moves of threads in some order, at an engine that nobody has used yet. -/
def run (engine : Engine ι) (moves : List (Move ι)) : Callers ι :=
  moves.foldl perform
    { traffic :=
        { engine := { engine with lock := {}, overrides := {}, allowlist := {} }
          world := fun _ => {} } }

end Callers

end Engine

end AllowPolicy
