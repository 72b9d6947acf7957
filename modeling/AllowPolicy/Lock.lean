import AllowPolicy.Failure

namespace AllowPolicy

/-- What a thread may hold: a read permit is shared, the write permit excludes everybody else. -/
inductive Permit where
  | read
  | write
  deriving DecidableEq, Repr

/-- How long a thread is ready to wait. -/
inductive Patience where
  | none
  | limited
  | unlimited
  deriving DecidableEq, Repr

/-- A thread in the queue. It looks at the lock only when it is woken. -/
structure Lock.Waiter (ι : Type) where
  thread : ι
  permit : Permit
  limited : Bool := false
  /-- A wake-up has come since the thread last looked. -/
  woken : Bool := false
  deriving DecidableEq, Repr

/-- A lock with shared and exclusive permits, given out in the order of arrival. A thread that
    holds a permit may take further ones without queueing. -/
structure Lock (ι : Type) where
  /-- The waiting threads, the oldest first. -/
  queue : List (Lock.Waiter ι) := []
  /-- The read permits of each thread that holds some. -/
  readers : List (ι × Nat) := []
  writer : Option ι := none
  /-- How many times the writer holds the write permit. -/
  depth : Nat := 0
  deriving DecidableEq, Repr

namespace Lock

/-- How a request for a permit ends for now. -/
inductive Answer where
  | granted
  | timedOut
  | waiting
  deriving DecidableEq, Repr

variable {ι : Type} [DecidableEq ι]

def readCount (lock : Lock ι) (thread : ι) : Nat := (lock.readers.lookup thread).getD 0

/-- The thread holds a read permit. -/
def reads (lock : Lock ι) (thread : ι) : Bool := (lock.readers.lookup thread).isSome

/-- The thread holds the write permit. -/
def writes (lock : Lock ι) (thread : ι) : Bool := lock.writer == some thread

def activeReaders (lock : Lock ι) : Nat := lock.readers.length

def isWriteHeld (lock : Lock ι) : Bool := lock.writer.isSome

def queued (lock : Lock ι) : Nat := lock.queue.length

/-- The number of read permits of one thread replaced; none at all takes the thread off the list. -/
def setCount (thread : ι) (count : Nat) (readers : List (ι × Nat)) : List (ι × Nat) :=
  if count = 0 then readers.filter (·.1 ≠ thread)
  else if readers.any (·.1 = thread) then
    readers.map fun (t, n) => if t = thread then (t, count) else (t, n)
  else readers ++ [(thread, count)]

def wakeAll (lock : Lock ι) : Lock ι :=
  { lock with queue := lock.queue.map fun w => { w with woken := true } }

/-- The permit is free for whoever is first in the queue. -/
def isFree (lock : Lock ι) : Permit → Bool
  | .read => lock.writer.isNone
  | .write => lock.writer.isNone && lock.readers.isEmpty

/-- The thread is first in the queue, and the permit it waits for is free. -/
def isServable (lock : Lock ι) (thread : ι) : Bool :=
  match lock.queue with
  | [] => false
  | head :: _ => head.thread == thread && lock.isFree head.permit

/-- Takes the first waiter off the queue and gives it its permit. A new reader wakes the others, so
    that a reader behind it may join. -/
def serveHead (lock : Lock ι) : Lock ι :=
  match lock.queue with
  | [] => lock
  | head :: rest =>
    match head.permit with
    | .read =>
      wakeAll { lock with queue := rest, readers := setCount head.thread 1 lock.readers }
    | .write => { lock with queue := rest, writer := some head.thread, depth := 1 }

/-- Takes a thread off the queue and wakes the others. -/
def giveUp (lock : Lock ι) (thread : ι) : Lock ι :=
  wakeAll { lock with queue := lock.queue.filter (·.thread ≠ thread) }

/-- A thread joins the queue and looks once: it is served, gives up or starts to wait. -/
def enqueue (lock : Lock ι) (thread : ι) (permit : Permit) (patience : Patience) :
    Lock ι × Answer :=
  let waiter : Waiter ι := { thread, permit, limited := patience = .limited }
  let joined := { lock with queue := lock.queue ++ [waiter] }
  if joined.isServable thread then (joined.serveHead, .granted)
  else if patience = .none then (joined.giveUp thread, .timedOut)
  else (joined, .waiting)

def acquireRead (lock : Lock ι) (thread : ι) (patience : Patience) : Lock ι × Answer :=
  if lock.reads thread || lock.writes thread then
    let readers := setCount thread (lock.readCount thread + 1) lock.readers
    ({ lock with readers }, .granted)
  else lock.enqueue thread .read patience

/-- A thread asks for the write permit, which a thread that only reads cannot get. -/
def acquireWrite (lock : Lock ι) (thread : ι) (patience : Patience) : Outcome (Lock ι × Answer) :=
  if lock.writes thread then .ok ({ lock with depth := lock.depth + 1 }, .granted)
  else if lock.reads thread then
    .error (.misuse "Cannot upgrade a read permit to a write permit")
  else .ok (lock.enqueue thread .write patience)

/-- A thread gives back one read permit; its last one wakes the others. -/
def releaseRead (lock : Lock ι) (thread : ι) : Outcome (Lock ι) :=
  match lock.readCount thread with
  | 0 => .error (.misuse "release_read() called without a read permit")
  | count + 1 =>
    let fewer := { lock with readers := setCount thread count lock.readers }
    .ok (if count = 0 then fewer.wakeAll else fewer)

/-- A thread gives back the write permit once; the last time wakes the others. -/
def releaseWrite (lock : Lock ι) (thread : ι) : Outcome (Lock ι) :=
  if lock.writes thread then
    if lock.depth = 1 then .ok (wakeAll { lock with writer := none, depth := 0 })
    else .ok { lock with depth := lock.depth - 1 }
  else .error (.misuse "release_write() called without the write permit")

/-- A woken thread looks again: it is served, or goes back to sleep. -/
def look (lock : Lock ι) (thread : ι) : Lock ι × Answer :=
  if lock.isServable thread then (lock.serveHead, .granted)
  else
    let queue := lock.queue.map fun w => if w.thread = thread then { w with woken := false } else w
    ({ lock with queue }, .waiting)

/-- The patience of a thread ends. It looks a last time, and gives up if it is not served. -/
def expire (lock : Lock ι) (thread : ι) : Lock ι × Answer :=
  if lock.isServable thread then (lock.serveHead, .granted)
  else (lock.giveUp thread, .timedOut)

def isWaiting (lock : Lock ι) (thread : ι) : Bool := lock.queue.any (·.thread == thread)

/-- The thread waits in the queue, but not for ever. -/
def mayExpire (lock : Lock ι) (thread : ι) : Bool :=
  lock.queue.any fun w => w.thread == thread && w.limited

/-- All woken threads go back to sleep. -/
def sleepAll (lock : Lock ι) : Lock ι :=
  { lock with queue := lock.queue.map fun w => { w with woken := false } }

/-- Lets the woken threads look until none can go on, and tells which were served. At most `fuel`
    are served. -/
def settleWithin : (fuel : Nat) → Lock ι → Lock ι × List ι
  | 0, lock => (lock.sleepAll, [])
  | fuel + 1, lock =>
    match lock.queue with
    | [] => (lock, [])
    | head :: _ =>
      if head.woken && lock.isServable head.thread then
        let (settled, served) := settleWithin fuel lock.serveHead
        (settled, head.thread :: served)
      else (lock.sleepAll, [])

/-- Lets the woken threads look until none can go on, and tells which were served, in order. -/
def settle (lock : Lock ι) : Lock ι × List ι := settleWithin lock.queue.length lock

/-- Runs `body` while the thread holds a read permit, and gives that permit back. -/
def sharing {α : Type} (lock : Lock ι) (thread : ι) (body : Lock ι → α) : Outcome (Lock ι × α) :=
  match lock.acquireRead thread .unlimited with
  | (held, .granted) => do
    let result := body held
    let after ← held.releaseRead thread
    pure (after, result)
  | _ => .error .stuck

/-- Runs `body` while the thread holds the write permit, and gives that permit back. -/
def excluding {α : Type} (lock : Lock ι) (thread : ι) (body : Unit → α) :
    Outcome (Lock ι × α) := do
  match ← lock.acquireWrite thread .unlimited with
  | (held, .granted) =>
    let result := body ()
    let after ← held.releaseWrite thread
    pure (after, result)
  | _ => .error .stuck

end Lock

end AllowPolicy
