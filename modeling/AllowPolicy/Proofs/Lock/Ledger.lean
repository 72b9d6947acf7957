import AllowPolicy.Proofs.Lock.Sound

namespace AllowPolicy.Lock

variable {ι : Type} [DecidableEq ι]

/-- What happens at a lock: a thread asks for a permit or gives one back, or a thread that waits
    looks again or runs out of patience. -/
inductive Event (ι : Type) where
  | ask (thread : ι) (permit : Permit) (patience : Patience)
  | give (thread : ι) (permit : Permit)
  | look (thread : ι)
  | expire (thread : ι)

/-- The thread that acts. -/
def Event.thread : Event ι → ι
  | .ask thread _ _ | .give thread _ | .look thread | .expire thread => thread

/-- A lock with a count of the permits that each thread was granted and has given back. -/
structure Ledger (ι : Type) where
  lock : Lock ι := {}
  granted : ι → Permit → Nat := fun _ _ => 0
  released : ι → Permit → Nat := fun _ _ => 0

namespace Ledger

/-- One more in the count of a thread. -/
def bump (thread : ι) (permit : Permit) (count : ι → Permit → Nat) : ι → Permit → Nat :=
  fun other kind => count other kind + if other = thread ∧ kind = permit then 1 else 0

/-- Enters the answer to a request. -/
def enter (ledger : Ledger ι) (thread : ι) (permit : Permit) : Lock ι × Answer → Ledger ι
  | (lock, .granted) => { ledger with lock, granted := bump thread permit ledger.granted }
  | (lock, _) => { ledger with lock }

/-- The ledger after an event. A thread that waits makes no call, only threads that wait look again,
    and only those that do not wait for ever run out of patience. A call that fails changes
    nothing. -/
def perform (ledger : Ledger ι) : Event ι → Ledger ι
  | .ask thread permit patience =>
    if ledger.lock.isWaiting thread then ledger
    else
      match ledger.lock.acquire thread permit patience with
      | .ok reply => ledger.enter thread permit reply
      | .error _ => ledger
  | .give thread permit =>
    if ledger.lock.isWaiting thread then ledger
    else
      match ledger.lock.release thread permit with
      | .ok lock => { ledger with lock, released := bump thread permit ledger.released }
      | .error _ => ledger
  | .look thread =>
    match ledger.lock.waiter? thread with
    | some waiter => ledger.enter thread waiter.permit (ledger.lock.look thread)
    | none => ledger
  | .expire thread =>
    match ledger.lock.waiter? thread with
    | some waiter =>
      if waiter.limited then ledger.enter thread waiter.permit (ledger.lock.expire thread)
      else ledger
    | none => ledger

/-- The ledger after events in some order, from a lock that nobody has used yet. -/
def run (events : List (Event ι)) : Ledger ι := events.foldl perform {}

theorem lock_enter (ledger : Ledger ι) (thread : ι) (permit : Permit) (reply : Lock ι × Answer) :
    (ledger.enter thread permit reply).lock = reply.1 := by
  rcases reply with ⟨lock, _ | _ | _⟩ <;> rfl

theorem run_concat (events : List (Event ι)) (event : Event ι) :
    run (events ++ [event]) = (run events).perform event := by
  rw [run, List.foldl_append]
  rfl

/-- The lock is sound and every permit is accounted for. -/
structure Balanced (ledger : Ledger ι) : Prop where
  sound : Sound ledger.lock
  balance : ∀ thread permit,
    ledger.granted thread permit = ledger.released thread permit + ledger.lock.held thread permit

theorem Balanced.enter {ledger : Ledger ι} (hbalanced : Balanced ledger) {thread : ι}
    {permit : Permit} {after : Lock ι} {answer : Answer}
    (hreply : Reply ledger.lock thread permit after answer) :
    Balanced (ledger.enter thread permit (after, answer)) := by
  have hsound := hbalanced.sound.of_reply hreply
  cases hreply with
  | granted hadmits hholders _ =>
    refine ⟨hsound, fun other kind => ?_⟩
    have hcount := hbalanced.balance other kind
    simp only [Ledger.enter, bump, hholders.held_eq, held_grant hadmits]
    omega
  | timedOut hholders _ =>
    refine ⟨hsound, fun other kind => ?_⟩
    simpa only [Ledger.enter, hholders.held_eq] using hbalanced.balance other kind
  | waiting hholders _ _ =>
    refine ⟨hsound, fun other kind => ?_⟩
    simpa only [Ledger.enter, hholders.held_eq] using hbalanced.balance other kind

/-- What an event comes to: nothing, an answer to its thread, or a permit that its thread gives
    back. -/
theorem perform_cases {ledger : Ledger ι} (hsound : Sound ledger.lock) (event : Event ι) :
    ledger.perform event = ledger ∨
      (∃ permit after answer, Reply ledger.lock event.thread permit after answer ∧
        ledger.perform event = ledger.enter event.thread permit (after, answer)) ∨
      ∃ permit after, Returned ledger.lock event.thread permit after ∧
        ledger.perform event = { ledger with
          lock := after, released := bump event.thread permit ledger.released } := by
  cases event with
  | ask thread permit patience =>
    simp only [Ledger.perform]
    by_cases hwaits : ledger.lock.isWaiting thread
    · exact .inl (if_pos hwaits)
    · rw [if_neg hwaits]
      cases hcall : ledger.lock.acquire thread permit patience with
      | error failure => exact .inl rfl
      | ok reply =>
        have habsent : thread ∉ ledger.lock.waiting := by rwa [mem_waiting_iff]
        exact .inr (.inl ⟨permit, reply.1, reply.2, hsound.reply_acquire habsent hcall, rfl⟩)
  | give thread permit =>
    simp only [Ledger.perform]
    by_cases hwaits : ledger.lock.isWaiting thread
    · exact .inl (if_pos hwaits)
    · rw [if_neg hwaits]
      cases hrelease : ledger.lock.release thread permit with
      | error failure => exact .inl rfl
      | ok after => exact .inr (.inr ⟨permit, after, hsound.returned hrelease, rfl⟩)
  | look thread =>
    simp only [Ledger.perform]
    cases hwaiter : ledger.lock.waiter? thread with
    | none => exact .inl rfl
    | some waiter => exact .inr (.inl ⟨_, _, _, hsound.reply_look hwaiter, rfl⟩)
  | expire thread =>
    simp only [Ledger.perform]
    cases hwaiter : ledger.lock.waiter? thread with
    | none => exact .inl rfl
    | some waiter =>
      by_cases hlimited : waiter.limited
      · simp only [hlimited, if_true]
        exact .inr (.inl ⟨_, _, _, hsound.reply_expire hwaiter, rfl⟩)
      · exact .inl (by simp only [hlimited, Bool.false_eq_true, if_false])

/-- Every event keeps the balance. -/
theorem Balanced.perform {ledger : Ledger ι} (hbalanced : Balanced ledger) (event : Event ι) :
    Balanced (ledger.perform event) := by
  have hsound := hbalanced.sound
  obtain hsame | ⟨permit, after, answer, hreply, henter⟩ | ⟨permit, after, hreturned, hgive⟩ :=
    perform_cases hsound event
  · rwa [hsame]
  · rw [henter]
    exact hbalanced.enter hreply
  · rw [hgive]
    refine ⟨hsound.of_returned hreturned, fun other kind => ?_⟩
    have hcount := hbalanced.balance other kind
    have hless := held_revoke hreturned.held other kind
    simp only [bump, hreturned.holders.held_eq]
    omega

theorem balanced_run (events : List (Event ι)) : Balanced (run events) := by
  have hkeeps : ∀ (ledger : Ledger ι), Balanced ledger →
      Balanced (events.foldl perform ledger) := by
    induction events with
    | nil => exact fun _ hbalanced => hbalanced
    | cons event rest ih => exact fun _ hbalanced => ih _ (hbalanced.perform event)
  exact hkeeps {} ⟨sound_empty, fun thread permit => by
    cases permit <;> simp [held, readCount, writes]⟩

/-- Whatever the order of events, a writer is the only thread with permits, the depth is that of the
    writer, every reader on the list holds some permit and stands there once, and each thread holds
    the permits that it was granted and has not given back. -/
theorem exclusive_and_accounted (events : List (Event ι)) :
    (∀ writer, (run events).lock.writes writer = true → ∀ other, other ≠ writer →
        (run events).lock.reads other = false ∧ (run events).lock.writes other = false) ∧
      (0 < (run events).lock.depth ↔ (run events).lock.isWriteHeld = true) ∧
      (∀ entry ∈ (run events).lock.readers, 1 ≤ entry.2) ∧
      ((run events).lock.readers.map (·.1)).Nodup ∧
      ∀ thread,
        (run events).granted thread .read =
          (run events).released thread .read + (run events).lock.readCount thread ∧
        (run events).granted thread .write =
          (run events).released thread .write +
            if (run events).lock.writes thread then (run events).lock.depth else 0 := by
  obtain ⟨hsound, hbalance⟩ := balanced_run events
  refine ⟨fun writer hwrites other hother => ?_, hsound.depth, hsound.listed.counts,
    hsound.listed.keys, fun thread => ⟨hbalance thread .read, hbalance thread .write⟩⟩
  have hwriter : (run events).lock.writer = some writer := by simpa [writes] using hwrites
  have hzero := hsound.alone writer hwriter other hother
  constructor
  · have hreads : ¬ (run events).lock.reads other = true := by
      rw [hsound.reads_iff, hzero]
      simp
    simpa using hreads
  · simp [writes, hwriter, Ne.symm hother]

end Ledger

end AllowPolicy.Lock
