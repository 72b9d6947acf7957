import AllowPolicy.Proofs.Lock.Arrival

namespace AllowPolicy.Lock

variable {ι : Type} [DecidableEq ι]

/-- A request is refused to a thread that only reads, if it is one for the write permit. -/
theorem acquire_eq_error_iff (lock : Lock ι) (thread : ι) (permit : Permit) (patience : Patience)
    (failure : Failure) :
    lock.acquire thread permit patience = .error failure ↔
      permit = .write ∧ lock.reads thread = true ∧ lock.writes thread = false ∧
        failure = .misuse "Cannot upgrade a read permit to a write permit" := by
  cases permit with
  | read => simp [acquire]
  | write =>
    unfold acquire acquireWrite
    cases hwrites : lock.writes thread with
    | true => simp
    | false =>
      cases hreads : lock.reads thread with
      | true => simp [eq_comm]
      | false => simp

/-- A thread gives a read permit back if it has one. -/
theorem releaseRead_eq_error_iff (lock : Lock ι) (thread : ι) (failure : Failure) :
    lock.releaseRead thread = .error failure ↔
      lock.readCount thread = 0 ∧
        failure = .misuse "release_read() called without a read permit" := by
  unfold releaseRead
  cases lock.readCount thread with
  | zero => simp [eq_comm]
  | succ count => simp

theorem releaseRead_eq_ok_iff (lock : Lock ι) (thread : ι) :
    (∃ after, lock.releaseRead thread = .ok after) ↔ 0 < lock.readCount thread := by
  unfold releaseRead
  cases lock.readCount thread with
  | zero => simp
  | succ count => simp

/-- A thread gives the write permit back if it writes. -/
theorem releaseWrite_eq_error_iff (lock : Lock ι) (thread : ι) (failure : Failure) :
    lock.releaseWrite thread = .error failure ↔
      lock.writes thread = false ∧
        failure = .misuse "release_write() called without the write permit" := by
  unfold releaseWrite
  cases lock.writes thread with
  | true =>
    by_cases hlast : lock.depth = 1
    · simp [hlast]
    · simp [hlast]
  | false => simp [eq_comm]

theorem releaseWrite_eq_ok_iff (lock : Lock ι) (thread : ι) :
    (∃ after, lock.releaseWrite thread = .ok after) ↔ lock.writes thread = true := by
  unfold releaseWrite
  cases lock.writes thread with
  | true =>
    by_cases hlast : lock.depth = 1
    · simp [hlast]
    · simp [hlast]
  | false => simp

theorem expire_eq_timedOut_iff (lock : Lock ι) (thread : ι) :
    (lock.expire thread).2 = .timedOut ↔ ¬ lock.isServable thread = true := by
  unfold expire
  by_cases hserve : lock.isServable thread
  · simp [hserve]
  · simp [hserve]

/-- A newcomer that does not wait is served if nobody waits and its permit is free. -/
theorem enqueue_eq_timedOut_iff {lock : Lock ι} {thread : ι} (habsent : thread ∉ lock.waiting)
    (permit : Permit) :
    (lock.enqueue thread permit .none).2 = .timedOut ↔
      ¬ (lock.queue = [] ∧ lock.isFree permit = true) := by
  unfold enqueue
  extract_lets waiter joined
  have hserve : joined.isServable thread = true ↔ lock.queue = [] ∧ lock.isFree permit = true := by
    constructor
    · intro hserve
      have hempty : lock.queue = [] := queue_nil_of_isServable habsent hserve
      obtain ⟨head, rest, hqueue, _, hfree⟩ := (isServable_iff joined thread).mp hserve
      obtain ⟨rfl, rfl⟩ : waiter = head ∧ [] = rest := by simpa [joined, hempty] using hqueue
      exact ⟨hempty, hfree⟩
    · rintro ⟨hempty, hfree⟩
      exact (isServable_iff joined thread).mpr ⟨waiter, [], by simp [joined, hempty], rfl, hfree⟩
  rw [← hserve]
  by_cases hserved : joined.isServable thread
  · simp [hserved]
  · simp [hserved]

namespace Docket

/-- The event is a call that fails: a refused request, a permit that the thread does not have and
    cannot give back, or a request that is given up, at once or after some time. -/
inductive Fails (docket : Docket ι) : Event ι → Prop
  | refused {thread : ι} {permit : Permit} {patience : Patience} {failure : Failure}
      (absent : thread ∉ docket.lock.waiting)
      (call : docket.lock.acquire thread permit patience = .error failure) :
      Fails docket (.ask thread permit patience)
  | notHeld {thread : ι} {permit : Permit} {failure : Failure}
      (absent : thread ∉ docket.lock.waiting)
      (call : docket.lock.release thread permit = .error failure) :
      Fails docket (.give thread permit)
  | atOnce {thread : ι} {permit : Permit} {patience : Patience} {lock : Lock ι}
      (absent : thread ∉ docket.lock.waiting)
      (call : docket.lock.acquire thread permit patience = .ok (lock, .timedOut)) :
      Fails docket (.ask thread permit patience)
  | expired {ticket : Ticket ι} (waits : ticket ∈ docket.waiting)
      (limited : docket.lock.mayExpire ticket.thread = true)
      (call : (docket.lock.expire ticket.thread).2 = .timedOut) :
      Fails docket (.expire ticket.thread)

/-- Nobody has a permit more or less, and nobody's place is gone but that of the thread, if it had
    one. -/
structure Traceless (thread : ι) (docket after : Docket ι) : Prop where
  holders : SameHolders after.lock docket.lock
  places : after.lock.places = docket.lock.places.filter (·.1 ≠ thread)
  waiting : after.waiting = docket.waiting.filter (·.thread ≠ thread)
  served : after.served = docket.served

variable {docket : Docket ι} {ticket : Ticket ι} {thread : ι}

theorem Kept.filter_thread (hkept : Kept docket) (habsent : thread ∉ docket.lock.waiting) :
    docket.waiting.filter (·.thread ≠ thread) = docket.waiting := by
  refine List.filter_eq_self.mpr fun other hother => ?_
  have hne : other.thread ≠ thread := by
    rintro rfl
    exact habsent (hkept.mem_waiting hother)
  simpa using hne

theorem Kept.without_eq (hkept : Kept docket) (hwaits : ticket ∈ docket.waiting) :
    docket.without ticket = docket.waiting.filter (·.thread ≠ ticket.thread) := by
  refine List.filter_congr fun other hother => ?_
  have hsame : other.number = ticket.number ↔ other.thread = ticket.thread := by
    constructor
    · intro hnumber
      rw [hkept.numbered.eq_of_number hother hwaits hnumber]
    · intro hthread
      rw [hkept.eq_of_thread hother hwaits hthread]
  simp [hsame]

theorem Kept.traceless_refl (hkept : Kept docket) (habsent : thread ∉ docket.lock.waiting) :
    Traceless thread docket docket :=
  ⟨⟨rfl, rfl, rfl⟩, (filter_ne_of_not_mem habsent).symm, (hkept.filter_thread habsent).symm, rfl⟩

theorem Kept.ticket?_eq_none (hkept : Kept docket) (habsent : thread ∉ docket.lock.waiting) :
    docket.ticket? thread = none := by
  rw [← Option.not_isSome_iff_eq_none, hkept.ticket?_isSome_iff, ← mem_waiting_iff]
  exact habsent

theorem Kept.ticket?_eq_some (hkept : Kept docket) (hwaits : ticket ∈ docket.waiting) :
    docket.ticket? ticket.thread = some ticket := by
  cases hfound : docket.ticket? ticket.thread with
  | none =>
    have hnone := List.find?_eq_none.mp hfound ticket hwaits
    simp at hnone
  | some other =>
    obtain ⟨hother, hthread⟩ := Docket.ticket?_eq_some hfound
    rw [hkept.eq_of_thread hother hwaits hthread]

/-- A request that is given up at once leaves everybody else as they were. -/
theorem Kept.traceless_atOnce (hkept : Kept docket) (habsent : thread ∉ docket.lock.waiting)
    {permit : Permit} {patience : Patience} {lock : Lock ι}
    (hcall : docket.lock.acquire thread permit patience = .ok (lock, .timedOut)) :
    Traceless thread docket (docket.perform (.ask thread permit patience)) := by
  have hreply := hkept.sound.reply_acquire habsent hcall
  have hholds : docket.lock.holds thread = false := by
    by_contra hholds
    have hgranted := granted_of_holds (by simpa using hholds) hcall
    cases hgranted
  have hdrawn := hkept.numbered.without_draw thread permit
  simp only [Docket.perform, hkept.ticket?_eq_none habsent, hcall, hholds, Option.isSome_none,
    Bool.false_eq_true, if_false, hear, hdrawn]
  cases hreply with
  | timedOut hholders hqueue =>
    exact ⟨hholders, hqueue, (hkept.filter_thread habsent).symm, rfl⟩

/-- So does one that is given up after some time. -/
theorem Kept.traceless_expired (hkept : Kept docket) (hwaits : ticket ∈ docket.waiting)
    (hlimited : docket.lock.mayExpire ticket.thread = true)
    (hcall : (docket.lock.expire ticket.thread).2 = .timedOut) :
    Traceless ticket.thread docket (docket.perform (.expire ticket.thread)) := by
  have hticket := hkept.ticket?_eq_some hwaits
  obtain ⟨waiter, hwaiter, _⟩ := hkept.waiter?_of_ticket? hticket
  have hreply := hkept.sound.reply_expire hwaiter
  simp only [Docket.perform, hticket, hlimited, if_true]
  generalize docket.lock.expire ticket.thread = reply at hcall hreply
  obtain ⟨lock, answer⟩ := reply
  obtain rfl : answer = .timedOut := hcall
  cases hreply with
  | timedOut hholders hqueue => exact ⟨hholders, hqueue, hkept.without_eq hwaits, rfl⟩

/-- A call that fails leaves no trace. -/
theorem Kept.traceless (hkept : Kept docket) {event : Event ι} (hfails : Fails docket event) :
    Traceless event.thread docket (docket.perform event) := by
  cases hfails with
  | @refused thread permit patience failure habsent hcall =>
    have hsame : docket.perform (.ask thread permit patience) = docket := by
      simp only [Docket.perform, hcall, ite_self]
    rw [hsame]
    exact hkept.traceless_refl habsent
  | @notHeld thread permit failure habsent hcall =>
    have hsame : docket.perform (.give thread permit) = docket := by
      simp only [Docket.perform, hcall, ite_self]
    rw [hsame]
    exact hkept.traceless_refl habsent
  | atOnce habsent hcall => exact hkept.traceless_atOnce habsent hcall
  | expired hwaits hlimited hcall => exact hkept.traceless_expired hwaits hlimited hcall

/-- When the calls of a thread fail. -/
structure Refusals (docket : Docket ι) (thread : ι) : Prop where
  /-- A thread that only reads is refused the write permit, and no other request is refused. -/
  request : ∀ permit patience failure,
    docket.lock.acquire thread permit patience = .error failure ↔
      permit = .write ∧ docket.lock.reads thread = true ∧ docket.lock.writes thread = false ∧
        failure = .misuse "Cannot upgrade a read permit to a write permit"
  /-- A thread that has a permit is granted a further read permit at once. -/
  readAgain : docket.lock.reads thread = true ∨ docket.lock.writes thread = true →
    ∀ patience, (docket.lock.acquireRead thread patience).2 = .granted
  /-- A thread that writes is granted the write permit again at once. -/
  writeAgain : docket.lock.writes thread = true →
    ∀ patience, ∃ lock, docket.lock.acquireWrite thread patience = .ok (lock, .granted)
  releaseRead : ∀ failure, docket.lock.releaseRead thread = .error failure ↔
    docket.lock.readCount thread = 0 ∧
      failure = .misuse "release_read() called without a read permit"
  releaseWrite : ∀ failure, docket.lock.releaseWrite thread = .error failure ↔
    docket.lock.writes thread = false ∧
      failure = .misuse "release_write() called without the write permit"
  /-- A thread that does not wait gives up at once unless nobody waits and the permit is free. -/
  atOnce : thread ∉ docket.lock.waiting → docket.lock.holds thread = false → ∀ permit,
    (∃ lock, docket.lock.acquire thread permit .none = .ok (lock, .timedOut)) ↔
      ¬ (docket.waiting = [] ∧ docket.lock.isFree permit = true)
  /-- A thread that runs out of patience gives up unless its ticket is the oldest and its permit is
      free. -/
  expired : ∀ ticket ∈ docket.waiting, ticket.thread = thread →
    ((docket.lock.expire thread).2 = .timedOut ↔
      ¬ (docket.waiting.head? = some ticket ∧ docket.lock.isFree ticket.permit = true))

theorem Kept.refusals (hkept : Kept docket) (thread : ι) : Refusals docket thread where
  request permit patience failure := acquire_eq_error_iff ..
  readAgain hholds patience := by
    have hholds : docket.lock.holds thread = true := by simpa [holds] using hholds
    have hcall : docket.lock.acquire thread .read patience =
        .ok (docket.lock.acquireRead thread patience) := rfl
    exact granted_of_holds hholds hcall
  writeAgain hwrites patience := ⟨_, by rw [acquireWrite, if_pos hwrites]⟩
  releaseRead failure := releaseRead_eq_error_iff ..
  releaseWrite failure := releaseWrite_eq_error_iff ..
  atOnce habsent hholds permit := by
    rw [acquire_eq_enqueue hholds, ← hkept.queue_nil_iff, ← enqueue_eq_timedOut_iff habsent]
    constructor
    · rintro ⟨lock, hcall⟩
      rw [Except.ok.inj hcall]
    · intro hcall
      exact ⟨_, congrArg Except.ok (Prod.ext rfl hcall)⟩
  expired ticket hwaits hthread := by
    subst hthread
    rw [expire_eq_timedOut_iff, hkept.isServable_iff hwaits]

/-- Whatever the order of events, exactly these calls of a thread fail: a request for the write
    permit while it only reads, giving back a permit that it does not have, and a request whose time
    is up before its turn has come. A call that fails changes no count of permits and takes nobody
    out of the queue but the thread itself. -/
theorem refused_without_trace (events : List (Event ι)) (thread : ι) :
    Refusals (run events) thread ∧
      ((∃ lock, (run events).lock.releaseRead thread = .ok lock) ↔
        0 < (run events).lock.readCount thread) ∧
      ((∃ lock, (run events).lock.releaseWrite thread = .ok lock) ↔
        (run events).lock.writes thread = true) ∧
      ∀ event, event.thread = thread → Fails (run events) event →
        Traceless thread (run events) (run (events ++ [event])) := by
  have hkept := kept_run events
  refine ⟨hkept.refusals thread, releaseRead_eq_ok_iff .., releaseWrite_eq_ok_iff ..,
    fun event hthread hfails => ?_⟩
  subst hthread
  rw [run_concat]
  exact hkept.traceless hfails

/-- A thread that wrote and keeps a read permit only is refused the write permit. -/
example :
    (run [.ask true .write .unlimited, .ask true .read .unlimited, .give true .write]).lock.acquire
      true .write .unlimited =
        .error (.misuse "Cannot upgrade a read permit to a write permit") := rfl

end Docket

end AllowPolicy.Lock
