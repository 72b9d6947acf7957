import AllowPolicy.Proofs.Loading.Call
import AllowPolicy.Proofs.Lock.Sound
import AllowPolicy.Proofs.Store.Change
import Mathlib.Logic.Function.Basic

namespace AllowPolicy

/-- What a load says to its sink, and what it hears. -/
structure Sink.Talk where
  calls : List Call := []
  answers : List (Outcome Unit) := []

/-- A sink that notes its calls and gives the answers that it was told beforehand, one after
    another. When it has none left it accepts everything. -/
def Sink.scripted : Sink Talk where
  addGlobal rule := fun talk => (talk.answers.headD (.ok ()),
    { calls := talk.calls ++ [.global rule], answers := talk.answers.tail })
  addApp uid rule := fun talk => (talk.answers.headD (.ok ()),
    { calls := talk.calls ++ [.app uid rule], answers := talk.answers.tail })

theorem Loading.offer_scripted (entry : ScopedRule) (talk : Sink.Talk) :
    (offer Sink.scripted entry).run talk =
      (talk.answers.headD (.ok ()),
        { calls := talk.calls ++ [entry.call], answers := talk.answers.tail }) := by
  unfold offer ScopedRule.call
  by_cases hglobal : entry.isGlobal
  · rw [if_pos hglobal, if_pos hglobal]
    rfl
  · rw [if_neg hglobal, if_neg hglobal]
    rfl

namespace Engine

open Loading

/-- What a thread is at. `ω` is what the sinks have in common. -/
inductive Task (ω : Type) where
  | idle
  /-- A load waits for its permit. -/
  | toLoad (sink : Sink ω)
  /-- A load is about to read its next row. -/
  | scanning (sink : Sink ω) (scan : Scan)
  /-- A load is about to hand its next rule to the sink. -/
  | routing (sink : Sink ω) (scan : Scan) (rest : List ScopedRule) (talk : Sink.Talk)
  /-- A load is about to give its permit back. -/
  | unload (result : Outcome LoadReport) (talk : Sink.Talk)
  | loaded (result : Outcome LoadReport) (talk : Sink.Talk)
  /-- A change waits for its permit. -/
  | toChange (change : Change)
  | changing (change : Change) (rest : List (Store.Op Unit))
  /-- A step of the change has failed. -/
  | undoing (change : Change)
  /-- A change is about to give its permit back. -/
  | leaving (change : Change)

namespace Task

variable {ω : Type}

def awaits? : Task ω → Option Permit
  | .toLoad _ => some .read
  | .toChange _ => some .write
  | _ => none

/-- The permit that a thread holds. -/
def permit? : Task ω → Option Permit
  | .scanning .. | .routing .. | .unload .. => some .read
  | .changing .. | .undoing _ | .leaving _ => some .write
  | _ => none

/-- A thread that neither waits for a permit nor holds one is free to begin something. -/
def isFree (task : Task ω) : Bool := task.awaits?.isNone && task.permit?.isNone

/-- What a thread does once it has the permit that it waits for. -/
def inside : Task ω → Task ω
  | .toLoad sink => .scanning sink {}
  | .toChange change => .changing change change.steps
  | task => task

/-- A load reads its next row, as the store has it now. -/
def readNext (resolver : Resolver) (store : Store) (sink : Sink ω) (scan : Scan) : Task ω :=
  match (rows store)[scan.rows]? with
  | none => .routing sink scan scan.staged {}
  | some row =>
    match (readRow resolver row).value with
    | .ok rule => .scanning sink (scan.add rule)
    | .error failure => .unload (.error failure) {}

/-- A load hands its next rule to the sink. -/
def handNext (sink : Sink ω) (scan : Scan) (talk : Sink.Talk) (world : ω) :
    List ScopedRule → Task ω × ω
  | [] => (.unload (.ok scan.report) talk, world)
  | entry :: rest =>
    let (answer, world) := (offer sink entry).run world
    let talk := { calls := talk.calls ++ [entry.call], answers := talk.answers ++ [answer] }
    match answer with
    | .error failure => (.unload (.error failure) talk, world)
    | .ok () => (.routing sink scan rest talk, world)

/-- A change takes its next step, and saves after the last. -/
def runNext (store : Store) (change : Change) : List (Store.Op Unit) → Task ω × Store
  | [] => (.leaving change, { store with saved := store.draft })
  | step :: rest =>
    match step.run.run store with
    | (.ok (), after) => (.changing change rest, after)
    | (.error _, after) => (.undoing change, after)

/-- The next step of a thread that holds a permit and is not yet done with it. -/
def work? (resolver : Resolver) (store : Store) (world : ω) :
    Task ω → Option (Task ω × Store × ω)
  | .scanning sink scan => some (readNext resolver store sink scan, store, world)
  | .routing sink scan rest talk =>
    let (task, world) := handNext sink scan talk world rest
    some (task, store, world)
  | .changing change rest =>
    let (task, store) := runNext store change rest
    some (task, store, world)
  | .undoing change => some (.leaving change, change.undo store, world)
  | _ => none

end Task

/-- What happens: a thread without work begins a load or a change, a thread that waits for its
    permit looks at the lock, a thread goes on with its work by one step, or somebody else acts on
    what the sinks have in common. -/
inductive Move (ι ω : Type) where
  | load (thread : ι) (sink : Sink ω)
  | change (thread : ι) (change : Change)
  | look (thread : ι)
  | advance (thread : ι)
  | elsewhere (world : ω)

/-- Threads that use one engine. -/
structure Traffic (ι ω : Type) where
  engine : Engine ι
  world : ω
  task : ι → Task ω := fun _ => .idle
  /-- The changes that are over, the oldest first. -/
  past : List Change := []

namespace Traffic

variable {ι ω : Type} [DecidableEq ι]

/-- A thread hears what has become of its request, and goes in if it may. -/
def receive (traffic : Traffic ι ω) (thread : ι) (task : Task ω) :
    Lock ι × Lock.Answer → Traffic ι ω
  | (lock, .granted) =>
    { traffic with
      engine := { traffic.engine with lock }
      task := Function.update traffic.task thread task.inside }
  | (lock, _) =>
    { traffic with
      engine := { traffic.engine with lock }
      task := Function.update traffic.task thread task }

/-- A thread that is free asks for the permit of its new task. -/
def request (traffic : Traffic ι ω) (thread : ι) (task : Task ω) (permit : Permit) : Traffic ι ω :=
  if (traffic.task thread).isFree then
    match traffic.engine.lock.acquire thread permit .unlimited with
    | .ok reply => traffic.receive thread task reply
    | .error _ => traffic
  else traffic

/-- A thread goes on with its work under its permit. -/
def proceed (traffic : Traffic ι ω) (thread : ι) : Traffic ι ω :=
  match (traffic.task thread).work? traffic.engine.resolver traffic.engine.store traffic.world with
  | some (task, store, world) =>
    { traffic with
      engine := { traffic.engine with store }
      world
      task := Function.update traffic.task thread task }
  | none => traffic

/-- A thread gives its permit back. -/
def leave (traffic : Traffic ι ω) (thread : ι) (permit : Permit) (task : Task ω)
    (past : List Change) : Traffic ι ω :=
  match traffic.engine.lock.release thread permit with
  | .ok lock =>
    { traffic with
      engine := { traffic.engine with lock }
      task := Function.update traffic.task thread task
      past }
  | .error _ => traffic

/-- What a move leads to. A move that the thread cannot make now changes nothing. -/
def perform (traffic : Traffic ι ω) : Move ι ω → Traffic ι ω
  | .load thread sink => traffic.request thread (.toLoad sink) .read
  | .change thread change => traffic.request thread (.toChange change) .write
  | .look thread =>
    match traffic.engine.lock.waiter? thread with
    | some _ => traffic.receive thread (traffic.task thread) (traffic.engine.lock.look thread)
    | none => traffic
  | .advance thread =>
    match traffic.task thread with
    | .unload result talk => traffic.leave thread .read (.loaded result talk) traffic.past
    | .leaving change => traffic.leave thread .write .idle (traffic.past ++ [change])
    | _ => traffic.proceed thread
  | .elsewhere world => { traffic with world }

/-- The moves of threads in some order, at an engine whose lock nobody has used yet. -/
def run (engine : Engine ι) (world : ω) (moves : List (Move ι ω)) : Traffic ι ω :=
  moves.foldl perform { engine := { engine with lock := {} }, world }

/-- The store once changes are made on it, one as a whole after the other. -/
def replay (store : Store) (changes : List Change) : Store :=
  changes.foldl (fun store change => change.apply store) store

end Traffic

end Engine

end AllowPolicy
