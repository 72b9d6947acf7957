import AllowPolicy.Lock
import AllowPolicy.Proofs.Entries

namespace AllowPolicy.Lock

variable {ι : Type} [DecidableEq ι]

/-- Who waits for what, the oldest first. -/
def places (lock : Lock ι) : List (ι × Permit) := lock.queue.map fun w => (w.thread, w.permit)

/-- The threads that wait, the oldest first. -/
def waiting (lock : Lock ι) : List ι := lock.places.map (·.1)

/-- How many permits of a kind a thread holds. -/
def held (lock : Lock ι) (thread : ι) : Permit → Nat
  | .read => lock.readCount thread
  | .write => if lock.writes thread then lock.depth else 0

/-- Two locks with the same permits given out. Their queues may differ. -/
structure SameHolders (a b : Lock ι) : Prop where
  readers : a.readers = b.readers
  writer : a.writer = b.writer
  depth : a.depth = b.depth

theorem SameHolders.held_eq {a b : Lock ι} (hsame : SameHolders a b) : a.held = b.held := by
  funext thread permit
  cases permit <;> simp [held, readCount, writes, hsame.readers, hsame.writer, hsame.depth]

/-- A thread may get this permit: nobody else writes, and for the write permit nobody else reads
    either. -/
structure Admits (lock : Lock ι) (thread : ι) (permit : Permit) : Prop where
  writer : ∀ writer, lock.writer = some writer → writer = thread
  readers : permit = .write → ∀ other, other ≠ thread → lock.readCount other = 0

/-- The lock with one more permit for a thread. -/
def grant (lock : Lock ι) (thread : ι) : Permit → Lock ι
  | .read => { lock with readers := setCount thread (lock.readCount thread + 1) lock.readers }
  | .write => { lock with writer := some thread, depth := lock.held thread .write + 1 }

/-- The lock with one permit of a thread taken back. -/
def revoke (lock : Lock ι) (thread : ι) : Permit → Lock ι
  | .read => { lock with readers := setCount thread (lock.readCount thread - 1) lock.readers }
  | .write =>
    { lock with
      writer := if lock.depth = 1 then none else lock.writer
      depth := lock.depth - 1 }

omit [DecidableEq ι] in
theorem SameHolders.trans {a b c : Lock ι} (hab : SameHolders a b) (hbc : SameHolders b c) :
    SameHolders a c :=
  ⟨hab.readers.trans hbc.readers, hab.writer.trans hbc.writer, hab.depth.trans hbc.depth⟩

theorem SameHolders.grant {a b : Lock ι} (hsame : SameHolders a b) (thread : ι) (permit : Permit) :
    SameHolders (a.grant thread permit) (b.grant thread permit) := by
  have hheld := hsame.held_eq
  cases permit with
  | read =>
    have hcount : a.readCount thread = b.readCount thread := congrFun (congrFun hheld thread) .read
    exact ⟨by simp [Lock.grant, hcount, hsame.readers], hsame.writer, hsame.depth⟩
  | write => exact ⟨hsame.readers, rfl, by simp [Lock.grant, hheld]⟩

/-! The map of read permits. -/

theorem setCount_of_ne_zero (thread : ι) {count : Nat} (hcount : count ≠ 0)
    (readers : List (ι × Nat)) : setCount thread count readers = putEntry readers thread count :=
  if_neg hcount

theorem lookup_setCount (thread : ι) (count : Nat) (readers : List (ι × Nat)) (other : ι) :
    ((setCount thread count readers).lookup other).getD 0 =
      if other = thread then count else (readers.lookup other).getD 0 := by
  by_cases hzero : count = 0
  · rw [setCount, if_pos hzero, lookup_filter_ne]
    by_cases hother : other = thread <;> simp [hother, hzero]
  · rw [setCount_of_ne_zero thread hzero, lookup_putEntry]
    by_cases hother : other = thread <;> simp [hother]

/-- Every thread on the list of readers holds some permit, and stands there once. -/
structure Listed (readers : List (ι × Nat)) : Prop where
  counts : ∀ entry ∈ readers, 0 < entry.2
  keys : (readers.map (·.1)).Nodup

theorem Listed.setCount {readers : List (ι × Nat)} (hlisted : Listed readers) (thread : ι)
    (count : Nat) : Listed (setCount thread count readers) := by
  by_cases hzero : count = 0
  · rw [Lock.setCount, if_pos hzero]
    refine ⟨fun entry hentry => hlisted.counts entry (List.mem_filter.mp hentry).1, ?_⟩
    exact hlisted.keys.sublist (List.filter_sublist.map _)
  · rw [setCount_of_ne_zero thread hzero]
    refine ⟨fun entry hentry => ?_, nodup_putEntry hlisted.keys thread count⟩
    rcases mem_putEntry_iff.mp hentry with rfl | ⟨_, hold⟩
    · exact Nat.pos_of_ne_zero hzero
    · exact hlisted.counts entry hold

/-! What a permit more or less changes. -/

theorem readCount_grant_read (lock : Lock ι) (thread other : ι) :
    (lock.grant thread .read).readCount other =
      lock.readCount other + if other = thread then 1 else 0 := by
  unfold grant readCount
  rw [lookup_setCount]
  by_cases hother : other = thread <;> simp [hother]

theorem held_grant {lock : Lock ι} {thread : ι} {permit : Permit}
    (hadmits : lock.Admits thread permit) (other : ι) (kind : Permit) :
    (lock.grant thread permit).held other kind =
      lock.held other kind + if other = thread ∧ kind = permit then 1 else 0 := by
  cases permit with
  | read =>
    cases kind with
    | read => simpa [held] using readCount_grant_read lock thread other
    | write => simp [held, grant, writes]
  | write =>
    cases kind with
    | read => simp [held, grant, readCount]
    | write =>
      by_cases hother : other = thread
      · simp [held, grant, writes, hother]
      · have hidle : lock.writer ≠ some other := fun hwriter =>
          hother (hadmits.writer other hwriter)
        simp [held, grant, writes, hother, hidle, Ne.symm hother]

theorem held_revoke {lock : Lock ι} {thread : ι} {permit : Permit}
    (hheld : 0 < lock.held thread permit) (other : ι) (kind : Permit) :
    lock.held other kind =
      (lock.revoke thread permit).held other kind +
        if other = thread ∧ kind = permit then 1 else 0 := by
  cases permit with
  | read =>
    cases kind with
    | read =>
      simp only [held, revoke, readCount] at hheld ⊢
      rw [lookup_setCount]
      by_cases hother : other = thread
      · subst hother
        simp only [if_true, and_self]
        omega
      · simp [hother]
    | write => simp [held, revoke, writes]
  | write =>
    have hwrites : lock.writes thread = true := by
      cases hidle : lock.writes thread with
      | true => rfl
      | false => simp [held, hidle] at hheld
    have hwriter : lock.writer = some thread := by simpa [writes] using hwrites
    cases kind with
    | read => simp [held, revoke, readCount]
    | write =>
      simp only [held, hwrites, if_true] at hheld
      by_cases hother : other = thread
      · by_cases hlast : lock.depth = 1
        · simp [held, revoke, writes, hother, hwriter, hlast]
        · simp [held, revoke, writes, hother, hwriter, hlast]
          omega
      · by_cases hlast : lock.depth = 1 <;>
          simp [held, revoke, writes, hother, hwriter, hlast, Ne.symm hother]

end AllowPolicy.Lock
