import AllowPolicy.Proofs.Lock.Ledger
import Mathlib.Data.List.Induction

namespace AllowPolicy.Lock

variable {ι : Type} [DecidableEq ι]

/-- Whoever is first in the queue and can be served has been woken since it last looked. -/
def Alert (lock : Lock ι) : Prop :=
  ∀ head rest, lock.queue = head :: rest → lock.isFree head.permit = true → head.woken = true

/-- Nobody in the queue has a wake-up to come. -/
def Asleep (lock : Lock ι) : Prop := ∀ waiter ∈ lock.queue, waiter.woken = false

omit [DecidableEq ι] in
theorem alert_wakeAll (lock : Lock ι) : Alert lock.wakeAll := by
  intro head rest hqueue _
  obtain ⟨waiter, _, _, rfl, _⟩ := List.map_eq_cons_iff.mp hqueue
  rfl

omit [DecidableEq ι] in
theorem alert_of_writer {lock : Lock ι} {writer : ι} (hwriter : lock.writer = some writer) :
    Alert lock := by
  intro head rest _ hfree
  cases hpermit : head.permit <;> simp [isFree, hpermit, hwriter] at hfree

omit [DecidableEq ι] in
/-- A change that frees no permit and leaves the first in its place needs no wake-up. -/
theorem Alert.of_head {lock after : Lock ι} (halert : Alert lock)
    (hfree : ∀ permit, after.isFree permit = true → lock.isFree permit = true)
    (hhead : after.queue.head? = lock.queue.head?) : Alert after := by
  intro head rest hqueue hserved
  rw [hqueue, List.head?_cons] at hhead
  obtain ⟨others, hothers⟩ := List.head?_eq_some_iff.mp hhead.symm
  exact halert head others hothers (hfree head.permit hserved)

theorem setCount_succ_ne_nil (thread : ι) (count : Nat) (readers : List (ι × Nat)) :
    setCount thread (count + 1) readers ≠ [] := by
  unfold setCount
  rw [if_neg (Nat.succ_ne_zero count)]
  by_cases hany : readers.any (·.1 = thread)
  · rw [if_pos hany]
    intro hnil
    rw [List.map_eq_nil_iff.mp hnil] at hany
    cases hany
  · rw [if_neg hany]
    simp

/-- A reader that is served wakes the others, and a writer that is served leaves no permit free. -/
theorem alert_serveHead {lock : Lock ι} {thread : ι} (hserve : lock.isServable thread = true) :
    Alert lock.serveHead := by
  obtain ⟨head, rest, hqueue, _, _⟩ := (isServable_iff lock thread).mp hserve
  unfold serveHead
  cases hpermit : head.permit with
  | read => simpa only [hqueue, hpermit] using alert_wakeAll _
  | write => simpa only [hqueue, hpermit] using alert_of_writer rfl

/-- A newcomer looks once before it sleeps. -/
theorem Alert.enqueue {lock : Lock ι} (halert : Alert lock) (thread : ι) (permit : Permit)
    (patience : Patience) : Alert (lock.enqueue thread permit patience).1 := by
  unfold Lock.enqueue
  extract_lets waiter joined
  by_cases hserve : joined.isServable thread
  · rw [if_pos hserve]
    exact alert_serveHead hserve
  · rw [if_neg hserve]
    by_cases hnone : patience = .none
    · rw [if_pos hnone]
      exact alert_wakeAll _
    · rw [if_neg hnone]
      cases hqueue : lock.queue with
      | nil =>
        have hjoined : joined.queue = [waiter] := by simp [joined, hqueue]
        intro head rest hhead hfree
        rw [hjoined, List.cons.injEq] at hhead
        obtain ⟨rfl, -⟩ := hhead
        refine absurd ?_ hserve
        exact (isServable_iff joined thread).mpr ⟨waiter, [], hjoined, rfl, hfree⟩
      | cons first others => exact halert.of_head (fun _ => id) (by simp [joined, hqueue])

theorem Alert.acquire {lock after : Lock ι} (halert : Alert lock) {thread : ι} {permit : Permit}
    {patience : Patience} {answer : Answer}
    (hcall : lock.acquire thread permit patience = .ok (after, answer)) : Alert after := by
  cases permit with
  | read =>
    simp only [Lock.acquire, acquireRead, Except.ok.injEq] at hcall
    by_cases hholds : lock.reads thread || lock.writes thread
    · rw [if_pos hholds] at hcall
      cases hcall
      refine halert.of_head (fun permit hfree => ?_) rfl
      -- A further reader frees nothing.
      cases permit with
      | read => exact hfree
      | write => simp [isFree, setCount_succ_ne_nil] at hfree
    · rw [if_neg hholds] at hcall
      have henqueue := halert.enqueue thread .read patience
      rwa [hcall] at henqueue
  | write =>
    simp only [Lock.acquire, acquireWrite] at hcall
    by_cases hwrites : lock.writes thread
    · rw [if_pos hwrites] at hcall
      cases hcall
      exact halert.of_head (fun _ => id) rfl
    · rw [if_neg hwrites] at hcall
      by_cases hreads : lock.reads thread
      · simp [hreads] at hcall
      · rw [if_neg hreads, Except.ok.injEq] at hcall
        have henqueue := halert.enqueue thread .write patience
        rwa [hcall] at henqueue

/-- The last permit of a thread wakes the others, and an earlier one frees nothing. -/
theorem Alert.release {lock after : Lock ι} (halert : Alert lock) {thread : ι} {permit : Permit}
    (hrelease : lock.release thread permit = .ok after) : Alert after := by
  cases permit with
  | read =>
    simp only [Lock.release, releaseRead] at hrelease
    cases hcount : lock.readCount thread with
    | zero => simp [hcount] at hrelease
    | succ count =>
      rw [hcount] at hrelease
      cases count with
      | zero =>
        simp only [if_true, Except.ok.injEq] at hrelease
        subst hrelease
        exact alert_wakeAll _
      | succ rest =>
        simp only [Nat.add_eq_zero_iff, Nat.one_ne_zero, and_false, if_false, Except.ok.injEq]
          at hrelease
        subst hrelease
        refine halert.of_head (fun permit hfree => ?_) rfl
        cases permit with
        | read => exact hfree
        | write => simp [isFree, setCount_succ_ne_nil] at hfree
  | write =>
    simp only [Lock.release, releaseWrite] at hrelease
    by_cases hwrites : lock.writes thread
    · rw [if_pos hwrites] at hrelease
      by_cases hlast : lock.depth = 1
      · rw [if_pos hlast, Except.ok.injEq] at hrelease
        subst hrelease
        exact alert_wakeAll _
      · rw [if_neg hlast, Except.ok.injEq] at hrelease
        subst hrelease
        exact halert.of_head (fun _ => id) rfl
    · simp [hwrites] at hrelease

/-- Only a thread that cannot be served goes back to sleep. -/
theorem Alert.look {lock : Lock ι} (halert : Alert lock) (thread : ι) :
    Alert (lock.look thread).1 := by
  unfold Lock.look
  by_cases hserve : lock.isServable thread
  · rw [if_pos hserve]
    exact alert_serveHead hserve
  · rw [if_neg hserve]
    intro head rest hqueue hfree
    obtain ⟨waiter, others, hold, hsame, _⟩ := List.map_eq_cons_iff.mp hqueue
    by_cases hown : waiter.thread = thread
    · rw [if_pos hown] at hsame
      subst hsame
      exact absurd ((isServable_iff lock thread).mpr ⟨waiter, others, hold, hown, hfree⟩) hserve
    · rw [if_neg hown] at hsame
      subst hsame
      exact halert waiter others hold hfree

theorem alert_expire (lock : Lock ι) (thread : ι) : Alert (lock.expire thread).1 := by
  unfold expire
  by_cases hserve : lock.isServable thread
  · rw [if_pos hserve]
    exact alert_serveHead hserve
  · rw [if_neg hserve]
    exact alert_wakeAll _

/-- No event loses a wake-up. -/
theorem Alert.perform {ledger : Ledger ι} (halert : Alert ledger.lock) (event : Event ι) :
    Alert (ledger.perform event).lock := by
  cases event with
  | ask thread permit patience =>
    simp only [Ledger.perform]
    by_cases hwaits : ledger.lock.isWaiting thread
    · rwa [if_pos hwaits]
    · rw [if_neg hwaits]
      cases hcall : ledger.lock.acquire thread permit patience with
      | error failure => exact halert
      | ok reply =>
        rw [Ledger.lock_enter]
        exact halert.acquire hcall
  | give thread permit =>
    simp only [Ledger.perform]
    by_cases hwaits : ledger.lock.isWaiting thread
    · rwa [if_pos hwaits]
    · rw [if_neg hwaits]
      cases hrelease : ledger.lock.release thread permit with
      | error failure => exact halert
      | ok after => exact halert.release hrelease
  | look thread =>
    simp only [Ledger.perform]
    cases hwaiter : ledger.lock.waiter? thread with
    | none => exact halert
    | some waiter =>
      rw [Ledger.lock_enter]
      exact halert.look thread
  | expire thread =>
    simp only [Ledger.perform]
    cases hwaiter : ledger.lock.waiter? thread with
    | none => exact halert
    | some waiter =>
      by_cases hlimited : waiter.limited
      · simp only [hlimited, if_true, Ledger.lock_enter]
        exact alert_expire _ thread
      · simpa only [hlimited, Bool.false_eq_true, if_false] using halert

theorem alert_run (events : List (Event ι)) : Alert (Ledger.run events).lock := by
  induction events using List.reverseRecOn with
  | nil => exact fun _ _ hqueue => by cases hqueue
  | append_singleton events event ih =>
    rw [Ledger.run_concat]
    exact ih.perform event

end AllowPolicy.Lock
