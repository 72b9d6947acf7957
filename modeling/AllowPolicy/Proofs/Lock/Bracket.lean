import AllowPolicy.Lock

namespace AllowPolicy.Lock

variable {ι : Type} [DecidableEq ι]

theorem sharing_cases {α : Type} (lock : Lock ι) (thread : ι) (body : Lock ι → α) :
    (∃ failure, lock.sharing thread body = .error failure) ∨
      ∃ held after, lock.sharing thread body = .ok (after, body held) := by
  unfold sharing
  rcases lock.acquireRead thread .unlimited with ⟨held, answer⟩
  cases answer with
  | timedOut => exact .inl ⟨_, rfl⟩
  | waiting => exact .inl ⟨_, rfl⟩
  | granted =>
    cases hrelease : held.releaseRead thread with
    | error failure => exact .inl ⟨failure, by simp [hrelease, bind, Except.bind]⟩
    | ok after =>
      exact .inr ⟨held, after, by simp [hrelease, bind, Except.bind, pure, Except.pure]⟩

/-- A thread that shares a lock that nobody uses leaves it so. -/
theorem sharing_unused {α : Type} (thread : ι) (body : Lock ι → α) :
    ∃ held, ({} : Lock ι).sharing thread body = .ok ({}, body held) := by
  have hacquire : ({} : Lock ι).acquireRead thread .unlimited =
      ({ readers := [(thread, 1)] }, .granted) := by
    simp [acquireRead, reads, writes, enqueue, isServable, isFree, serveHead, setCount, wakeAll]
  have hrelease : ({ readers := [(thread, 1)] } : Lock ι).releaseRead thread = .ok {} := by
    simp [releaseRead, readCount, setCount, wakeAll]
  refine ⟨{ readers := [(thread, 1)] }, ?_⟩
  unfold sharing
  rw [hacquire]
  simp [hrelease, bind, Except.bind, pure, Except.pure]

/-- A thread that has a lock to itself that nobody uses leaves it so. -/
theorem excluding_unused {α : Type} (thread : ι) (body : Unit → α) :
    ({} : Lock ι).excluding thread body = .ok ({}, body ()) := by
  have hacquire : ({} : Lock ι).acquireWrite thread .unlimited =
      .ok ({ writer := some thread, depth := 1 }, .granted) := by
    simp [acquireWrite, reads, writes, enqueue, isServable, isFree, serveHead]
  have hrelease : ({ writer := some thread, depth := 1 } : Lock ι).releaseWrite thread =
      .ok {} := by
    simp [releaseWrite, writes, wakeAll]
  unfold excluding
  rw [hacquire]
  simp [hrelease, bind, Except.bind, pure, Except.pure]

end AllowPolicy.Lock
