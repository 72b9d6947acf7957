import AllowPolicy.Proofs.Lock.Holds
import AllowPolicy.Proofs.Lock.Ledger
import Mathlib.Data.List.Induction
import Mathlib.Data.List.Nodup

namespace AllowPolicy.Lock

variable {ι : Type} [DecidableEq ι]

theorem Reply.held_of_ne {lock after : Lock ι} {thread other : ι} {permit : Permit}
    {answer : Answer} (hreply : Reply lock thread permit after answer) (hother : other ≠ thread) :
    after.held other = lock.held other := by
  funext kind
  cases hreply with
  | granted hadmits hholders _ => simp [hholders.held_eq, held_grant hadmits, hother]
  | timedOut hholders _ => rw [hholders.held_eq]
  | waiting hholders _ _ => rw [hholders.held_eq]

theorem Reply.mem_places_of_ne {lock after : Lock ι} {thread other : ι} {permit kind : Permit}
    {answer : Answer} (hreply : Reply lock thread permit after answer) (hother : other ≠ thread) :
    (other, kind) ∈ after.places ↔ (other, kind) ∈ lock.places := by
  cases hreply with
  | granted _ _ hqueue => simp [hqueue, hother]
  | timedOut _ hqueue => simp [hqueue, hother]
  | waiting _ _ hqueue =>
    obtain ⟨_, hsame⟩ | ⟨_, hjoined⟩ := hqueue
    · rw [hsame]
    · simp [hjoined, hother]

theorem Returned.held_of_ne {lock after : Lock ι} {thread other : ι} {permit : Permit}
    (hreturned : Returned lock thread permit after) (hother : other ≠ thread) :
    after.held other = lock.held other := by
  funext kind
  have hless := held_revoke hreturned.held other kind
  rw [hreturned.holders.held_eq]
  simpa [hother] using hless.symm

namespace Ledger

/-- What a thread holds and waits for changes by its own events only. -/
theorem perform_of_ne {ledger : Ledger ι} (hsound : Sound ledger.lock) {event : Event ι}
    {thread : ι} (hother : thread ≠ event.thread) :
    (ledger.perform event).lock.held thread = ledger.lock.held thread ∧
      ∀ permit, (thread, permit) ∈ (ledger.perform event).lock.places ↔
        (thread, permit) ∈ ledger.lock.places := by
  obtain hsame | ⟨permit, after, answer, hreply, henter⟩ | ⟨permit, after, hreturned, hgive⟩ :=
    perform_cases hsound event
  · rw [hsame]
    exact ⟨rfl, fun _ => Iff.rfl⟩
  · rw [henter, lock_enter]
    exact ⟨hreply.held_of_ne hother, fun _ => hreply.mem_places_of_ne hother⟩
  · rw [hgive]
    exact ⟨hreturned.held_of_ne hother, fun _ => by rw [hreturned.queue]⟩

end Ledger

/-- A thread that began to share the lock at `start` waits for its permit, or has it. -/
inductive Visits (start : Lock ι) (thread : ι) (lock : Lock ι) : Prop
  | waits (place : (thread, Permit.read) ∈ lock.places)
      (held : lock.held thread = start.held thread)
  | inside (absent : thread ∉ lock.waiting)
      (held : ∀ kind, lock.held thread kind =
        start.held thread kind + if kind = .read then 1 else 0)

variable {start : Lock ι} {thread : ι}

/-- A thread that hears from the lock is inside or waits, unless it runs out of patience. -/
theorem visits_of_reply {lock after : Lock ι} {answer : Answer}
    (hreply : Reply lock thread .read after answer) (hpatient : answer ≠ .timedOut)
    (hheld : lock.held thread = start.held thread)
    (hread : ∀ kind, (thread, kind) ∈ lock.places → kind = .read) : Visits start thread after := by
  cases hreply with
  | granted hadmits hholders hqueue =>
    refine .inside ?_ fun kind => ?_
    · simp [mem_waiting_iff_places, hqueue]
    · simp [hholders.held_eq, held_grant hadmits, hheld]
  | timedOut _ _ => exact absurd rfl hpatient
  | waiting hholders _ hqueue =>
    have hsame : after.held thread = start.held thread := by rw [hholders.held_eq, hheld]
    obtain ⟨hwaits, hplaces⟩ | ⟨_, hjoined⟩ := hqueue
    · obtain ⟨kind, hplace⟩ := (mem_waiting_iff_places lock thread).mp hwaits
      obtain rfl := hread kind hplace
      exact .waits (hplaces ▸ hplace) hsame
    · exact .waits (by simp [hjoined]) hsame

theorem acquireRead_ne_timedOut (lock : Lock ι) (thread : ι) :
    (lock.acquireRead thread .unlimited).2 ≠ .timedOut := by
  unfold acquireRead
  by_cases hholds : lock.reads thread || lock.writes thread
  · simp [hholds]
  · unfold enqueue
    extract_lets readers waiter joined
    by_cases hserve : joined.isServable thread <;> simp [hholds, hserve]

theorem acquireRead_granted {lock : Lock ι} {thread : ι}
    (hfree : lock.holds thread = true ∨ lock.writer = none ∧ lock.queue = []) :
    (lock.acquireRead thread .unlimited).2 = .granted := by
  unfold acquireRead
  by_cases hholds : lock.reads thread || lock.writes thread
  · rw [if_pos hholds]
  · obtain hhas | ⟨hwriter, hqueue⟩ := hfree
    · exact absurd hhas hholds
    · simp [hholds, enqueue, isServable, isFree, hwriter, hqueue]

theorem look_ne_timedOut (lock : Lock ι) (thread : ι) : (lock.look thread).2 ≠ .timedOut := by
  unfold look
  by_cases hserve : lock.isServable thread <;> simp [hserve]

theorem Sound.visits_acquireRead (hsound : Sound start) (habsent : thread ∉ start.waiting) :
    Visits start thread (start.acquireRead thread .unlimited).1 := by
  have hreply : Reply start thread .read (start.acquireRead thread .unlimited).1
      (start.acquireRead thread .unlimited).2 := hsound.reply_acquire habsent rfl
  refine visits_of_reply hreply (acquireRead_ne_timedOut start thread) rfl fun kind hplace => ?_
  exact absurd ((mem_waiting_iff_places start thread).mpr ⟨kind, hplace⟩) habsent

/-- A thread that asks is granted its permit unless it has to wait. -/
theorem Sound.sharing_eq {lock : Lock ι} (hsound : Sound lock) (habsent : thread ∉ lock.waiting)
    {α : Type} (body : Lock ι → α) :
    lock.sharing thread body =
      if (lock.acquireRead thread .unlimited).1.isWaiting thread then .error .stuck
      else ((lock.acquireRead thread .unlimited).1.releaseRead thread).map fun after =>
        (after, body (lock.acquireRead thread .unlimited).1) := by
  have hreply : lock.Reply thread .read (lock.acquireRead thread .unlimited).1
      (lock.acquireRead thread .unlimited).2 := hsound.reply_acquire habsent rfl
  have hpatient := acquireRead_ne_timedOut lock thread
  unfold sharing
  generalize lock.acquireRead thread .unlimited = reply at hreply hpatient ⊢
  obtain ⟨held, answer⟩ := reply
  cases hreply with
  | granted _ _ hqueue =>
    have hfree : ¬ held.isWaiting thread = true := by
      rw [← mem_waiting_iff, mem_waiting_iff_places, hqueue]
      simp
    rw [if_neg hfree]
    cases hrelease : held.releaseRead thread <;>
      simp [hrelease, bind, Except.bind, pure, Except.pure, Except.map]
  | timedOut _ _ => exact absurd rfl hpatient
  | waiting _ _ hqueue =>
    obtain ⟨hwaits, _⟩ | ⟨_, hjoined⟩ := hqueue
    · exact absurd hwaits habsent
    · have hwaits : held.isWaiting thread = true := by
        rw [← mem_waiting_iff, mem_waiting_iff_places, hjoined]
        exact ⟨.read, by simp⟩
      rw [if_pos hwaits]

/-- A thread that waits looks again, and is let in or goes on waiting. -/
theorem Visits.look {ledger : Ledger ι} (hvisits : Visits start thread ledger.lock)
    (hsound : Sound ledger.lock) : Visits start thread (ledger.perform (.look thread)).lock := by
  simp only [Ledger.perform]
  cases hwaiter : ledger.lock.waiter? thread with
  | none => exact hvisits
  | some waiter =>
    have hplace := mem_places_of_waiter? hwaiter
    cases hvisits with
    | inside habsent _ =>
      exact absurd ((mem_waiting_iff_places _ _).mpr ⟨waiter.permit, hplace⟩) habsent
    | waits hwaits hheld =>
      have hread (kind : Permit) (hkind : (thread, kind) ∈ ledger.lock.places) : kind = .read :=
        (Prod.mk.inj (List.inj_on_of_nodup_map hsound.distinct hkind hwaits rfl)).2
      have hreply := hsound.reply_look hwaiter
      rw [hread waiter.permit hplace] at hreply
      rw [Ledger.lock_enter]
      exact visits_of_reply hreply (look_ne_timedOut ledger.lock thread) hheld hread

/-- Whatever others do, a thread goes on waiting or keeps its permit. -/
theorem Visits.perform {ledger : Ledger ι} (hvisits : Visits start thread ledger.lock)
    (hsound : Sound ledger.lock) {event : Event ι}
    (hevent : event.thread = thread → event = .look thread) :
    Visits start thread (ledger.perform event).lock := by
  by_cases hown : event.thread = thread
  · rw [hevent hown]
    exact hvisits.look hsound
  · obtain ⟨hheld, hplaces⟩ := ledger.perform_of_ne hsound (Ne.symm hown)
    cases hvisits with
    | waits hplace hsame => exact .waits ((hplaces .read).mpr hplace) (hheld.trans hsame)
    | inside habsent hmore =>
      refine .inside ?_ fun kind => ?_
      · simpa only [mem_waiting_iff_places, hplaces] using habsent
      · rw [hheld, hmore kind]

theorem Visits.releaseRead {lock : Lock ι} (hvisits : Visits start thread lock)
    (hsound : Sound lock) (habsent : thread ∉ lock.waiting) :
    ∃ after, lock.releaseRead thread = .ok after ∧ after.held thread = start.held thread := by
  cases hvisits with
  | waits hplace _ => exact absurd ((mem_waiting_iff_places _ _).mpr ⟨_, hplace⟩) habsent
  | inside _ hheld =>
    have hcount : lock.readCount thread = start.readCount thread + 1 := hheld .read
    obtain ⟨after, hrelease⟩ : ∃ after, lock.releaseRead thread = .ok after := by
      unfold Lock.releaseRead
      rw [hcount]
      exact ⟨_, rfl⟩
    refine ⟨after, hrelease, ?_⟩
    have hreturned : Returned lock thread .read after := hsound.returned hrelease
    funext kind
    have hless := held_revoke hreturned.held thread kind
    have hmore := hheld kind
    rw [hreturned.holders.held_eq]
    simp only [true_and] at hless
    omega

namespace Ledger

theorem lock_run_ask {before : List (Event ι)} (habsent : thread ∉ (run before).lock.waiting) :
    (run (before ++ [.ask thread .read .unlimited])).lock =
      ((run before).lock.acquireRead thread .unlimited).1 := by
  have hwaits : (run before).lock.isWaiting thread = false := by
    simpa [mem_waiting_iff] using habsent
  rw [run_concat]
  simp only [Ledger.perform, hwaits, Bool.false_eq_true, if_false, acquire, lock_enter]

/-- A thread that does not wait goes on without waiting, as long as it asks for nothing. -/
theorem absent_run (before during : List (Event ι)) (habsent : thread ∉ (run before).lock.waiting)
    (hduring : ∀ event ∈ during, event.thread = thread → event = .look thread) :
    thread ∉ (run (before ++ during)).lock.waiting := by
  induction during using List.reverseRecOn with
  | nil => rwa [List.append_nil]
  | append_singleton earlier event ih =>
    have hearlier := ih fun other hother => hduring other (List.mem_append_left _ hother)
    rw [← List.append_assoc, run_concat]
    by_cases hown : event.thread = thread
    · have hnone : (run (before ++ earlier)).lock.waiter? thread = none := by
        rw [mem_waiting_iff] at hearlier
        simpa [waiter?, isWaiting] using hearlier
      rw [hduring event (by simp) hown]
      simpa only [Ledger.perform, hnone] using hearlier
    · have hplaces := (perform_of_ne (balanced_run (before ++ earlier)).sound (Ne.symm hown)).2
      simpa only [mem_waiting_iff_places, hplaces] using hearlier

/-- A thread with a permit, or at a lock that nobody writes or waits for, does not wait to read. -/
theorem absent_run_ask (before during : List (Event ι))
    (habsent : thread ∉ (run before).lock.waiting)
    (hduring : ∀ event ∈ during, event.thread = thread → event = .look thread)
    (hfree : (run before).lock.holds thread = true ∨
      (run before).lock.writer = none ∧ (run before).lock.queue = []) :
    thread ∉ (run (before ++ .ask thread .read .unlimited :: during)).lock.waiting := by
  have hreply : Reply (run before).lock thread .read
      ((run before).lock.acquireRead thread .unlimited).1
      ((run before).lock.acquireRead thread .unlimited).2 :=
    (balanced_run before).sound.reply_acquire habsent rfl
  rw [acquireRead_granted hfree] at hreply
  have hasked : thread ∉ (run (before ++ [.ask thread .read .unlimited])).lock.waiting := by
    rw [lock_run_ask habsent, mem_waiting_iff_places]
    cases hreply with
    | granted _ _ hqueue => simp [hqueue]
  have hgoes := absent_run _ during hasked hduring
  rwa [List.append_assoc, List.singleton_append] at hgoes

/-- A thread that asks for a read permit waits until it has one more than before, whatever other
    threads do in the meantime. -/
theorem visits_run (before during : List (Event ι))
    (habsent : thread ∉ (run before).lock.waiting)
    (hduring : ∀ event ∈ during, event.thread = thread → event = .look thread) :
    Visits (run before).lock thread
      (run (before ++ .ask thread .read .unlimited :: during)).lock := by
  induction during using List.reverseRecOn with
  | nil =>
    rw [lock_run_ask habsent]
    exact (balanced_run before).sound.visits_acquireRead habsent
  | append_singleton earlier event ih =>
    have hearlier := ih fun other hother => hduring other (List.mem_append_left _ hother)
    rw [← List.cons_append, ← List.append_assoc, run_concat]
    exact hearlier.perform (balanced_run _).sound (hduring event (by simp))

end Ledger

end AllowPolicy.Lock
