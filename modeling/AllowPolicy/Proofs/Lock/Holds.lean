import AllowPolicy.Proofs.Lock.Sound

namespace AllowPolicy.Lock

variable {ι : Type} [DecidableEq ι]

/-- The thread has some permit already, and gets further ones without queueing. -/
def holds (lock : Lock ι) (thread : ι) : Bool := lock.reads thread || lock.writes thread

theorem Sound.held_eq_zero_of_not_holds {lock : Lock ι} (hsound : Sound lock) {thread : ι}
    (hholds : lock.holds thread = false) (kind : Permit) : lock.held thread kind = 0 := by
  obtain ⟨hreads, hwrites⟩ : lock.reads thread = false ∧ lock.writes thread = false := by
    simpa [holds] using hholds
  exact hsound.held_eq_zero hreads hwrites kind

theorem Sound.exists_held_of_holds {lock : Lock ι} (hsound : Sound lock) {thread : ι}
    (hholds : lock.holds thread = true) : ∃ kind, 0 < lock.held thread kind := by
  have hsome : lock.reads thread = true ∨ lock.writes thread = true := by
    simpa [holds] using hholds
  cases hsome with
  | inl hreads => exact ⟨.read, (hsound.reads_iff thread).mp hreads⟩
  | inr hwrites =>
    have hwriter : lock.writer = some thread := by simpa [writes] using hwrites
    have hdepth : 0 < lock.depth := hsound.depth.mpr (by simp [isWriteHeld, hwriter])
    exact ⟨.write, by simpa [held, hwrites] using hdepth⟩

/-- Only the thread that is answered can gain a permit, and only if the answer grants it. -/
theorem Reply.gains {lock after : Lock ι} {thread other : ι} {permit kind : Permit}
    {answer : Answer} (hreply : Reply lock thread permit after answer)
    (hbefore : lock.held other kind = 0) (hafter : 0 < after.held other kind) :
    other = thread ∧ kind = permit ∧ answer = .granted := by
  cases hreply with
  | granted hadmits hholders _ =>
    have hheld := held_grant hadmits other kind
    rw [hholders.held_eq, hheld, hbefore] at hafter
    by_cases hown : other = thread ∧ kind = permit
    · exact ⟨hown.1, hown.2, rfl⟩
    · simp [hown] at hafter
  | timedOut hholders _ =>
    rw [hholders.held_eq] at hafter
    omega
  | waiting hholders _ _ =>
    rw [hholders.held_eq] at hafter
    omega

/-- Giving permits back gains nothing. -/
theorem Returned.held_le {lock after : Lock ι} {thread : ι} {permit : Permit}
    (hreturned : Returned lock thread permit after) (other : ι) (kind : Permit) :
    after.held other kind ≤ lock.held other kind := by
  have hless := held_revoke hreturned.held other kind
  rw [hreturned.holders.held_eq]
  omega

/-- A newcomer is served at once only if nobody waits. -/
theorem queue_nil_of_enqueue_granted {lock : Lock ι} {thread : ι} {permit : Permit}
    {patience : Patience} (habsent : thread ∉ lock.waiting)
    (hgranted : (lock.enqueue thread permit patience).2 = .granted) : lock.queue = [] := by
  unfold enqueue at hgranted
  extract_lets waiter joined at hgranted
  by_cases hserve : joined.isServable thread
  · exact queue_nil_of_isServable habsent hserve
  · by_cases hnone : patience = .none <;> simp [hserve, hnone] at hgranted

/-- A thread without permits that asks for one joins the queue. -/
theorem acquire_eq_enqueue {lock : Lock ι} {thread : ι} (hholds : lock.holds thread = false)
    (permit : Permit) (patience : Patience) :
    lock.acquire thread permit patience = .ok (lock.enqueue thread permit patience) := by
  obtain ⟨hreads, hwrites⟩ : lock.reads thread = false ∧ lock.writes thread = false := by
    simpa [holds] using hholds
  cases permit with
  | read => simp [acquire, acquireRead, hreads, hwrites]
  | write => simp [acquire, acquireWrite, hreads, hwrites]

/-- A thread with a permit is granted the next one at once, if it gets an answer at all. -/
theorem granted_of_holds {lock after : Lock ι} {thread : ι} (hholds : lock.holds thread = true)
    {permit : Permit} {patience : Patience} {answer : Answer}
    (hcall : lock.acquire thread permit patience = .ok (after, answer)) : answer = .granted := by
  have hsome : lock.reads thread = true ∨ lock.writes thread = true := by
    simpa [holds] using hholds
  cases permit with
  | read =>
    simp only [acquire, acquireRead, Bool.or_eq_true, hsome, if_true, Except.ok.injEq,
      Prod.mk.injEq] at hcall
    exact hcall.2.symm
  | write =>
    by_cases hwrites : lock.writes thread
    · simp only [acquire, acquireWrite, hwrites, if_true, Except.ok.injEq, Prod.mk.injEq] at hcall
      exact hcall.2.symm
    · have hreads : lock.reads thread = true := by simpa [hwrites] using hsome
      simp [acquire, acquireWrite, hwrites, hreads] at hcall

theorem isServable_of_look {lock : Lock ι} {thread : ι} (hlook : (lock.look thread).2 = .granted) :
    lock.isServable thread = true := by
  unfold look at hlook
  by_cases hserve : lock.isServable thread
  · exact hserve
  · simp [hserve] at hlook

theorem isServable_of_expire {lock : Lock ι} {thread : ι}
    (hexpire : (lock.expire thread).2 = .granted) : lock.isServable thread = true := by
  unfold expire at hexpire
  by_cases hserve : lock.isServable thread
  · exact hserve
  · simp [hserve] at hexpire

end AllowPolicy.Lock
