import AllowPolicy.Proofs.Lock.Permits
import Mathlib.Tactic.ByContra

namespace AllowPolicy.Lock

variable {ι : Type} [DecidableEq ι]

def waiter? (lock : Lock ι) (thread : ι) : Option (Waiter ι) :=
  lock.queue.find? (·.thread = thread)

def acquire (lock : Lock ι) (thread : ι) (permit : Permit) (patience : Patience) :
    Outcome (Lock ι × Answer) :=
  match permit with
  | .read => .ok (lock.acquireRead thread patience)
  | .write => lock.acquireWrite thread patience

def release (lock : Lock ι) (thread : ι) : Permit → Outcome (Lock ι)
  | .read => lock.releaseRead thread
  | .write => lock.releaseWrite thread

/-- What holds of a lock at all times: a writer is the only one with permits, the depth counts the
    permits of a writer, and who waits stands in the queue once and holds nothing. -/
structure Sound (lock : Lock ι) : Prop where
  alone : ∀ writer, lock.writer = some writer → ∀ other, other ≠ writer → lock.readCount other = 0
  depth : 0 < lock.depth ↔ lock.isWriteHeld = true
  listed : Listed lock.readers
  distinct : lock.waiting.Nodup
  idle : ∀ thread ∈ lock.waiting, ∀ permit, lock.held thread permit = 0

/-- What a request for a permit can come to, whether the thread asks for the first time or looks
    again: one more permit and a place in the queue less, a place less, or a place. -/
inductive Reply (lock : Lock ι) (thread : ι) (permit : Permit) (after : Lock ι) : Answer → Prop
  | granted (admits : lock.Admits thread permit)
      (holders : SameHolders after (lock.grant thread permit))
      (queue : after.places = lock.places.filter (·.1 ≠ thread)) :
      Reply lock thread permit after .granted
  | timedOut (holders : SameHolders after lock)
      (queue : after.places = lock.places.filter (·.1 ≠ thread)) :
      Reply lock thread permit after .timedOut
  | waiting (holders : SameHolders after lock) (idle : ∀ kind, lock.held thread kind = 0)
      (queue : thread ∈ lock.waiting ∧ after.places = lock.places ∨
        thread ∉ lock.waiting ∧ after.places = lock.places ++ [(thread, permit)]) :
      Reply lock thread permit after .waiting

omit [DecidableEq ι] in
theorem places_wakeAll (lock : Lock ι) : lock.wakeAll.places = lock.places := by
  simp [places, wakeAll]

theorem mem_waiting_iff (lock : Lock ι) (thread : ι) :
    thread ∈ lock.waiting ↔ lock.isWaiting thread = true := by
  simp [waiting, places, isWaiting]

omit [DecidableEq ι] in
theorem mem_waiting_iff_places (lock : Lock ι) (thread : ι) :
    thread ∈ lock.waiting ↔ ∃ permit, (thread, permit) ∈ lock.places := by
  simp [waiting]

/-- The place of a thread in the queue. -/
theorem mem_places_of_waiter? {lock : Lock ι} {thread : ι} {waiter : Waiter ι}
    (hwaiter : lock.waiter? thread = some waiter) : (thread, waiter.permit) ∈ lock.places := by
  have hfound : waiter.thread = thread := by simpa using List.find?_some hwaiter
  rw [← hfound]
  exact List.mem_map.mpr ⟨waiter, List.mem_of_find?_eq_some hwaiter, rfl⟩

theorem places_giveUp (lock : Lock ι) (thread : ι) :
    (lock.giveUp thread).places = lock.places.filter (·.1 ≠ thread) := by
  simp [places, giveUp, wakeAll, List.filter_map, Function.comp_def]

theorem map_filter_ne (thread : ι) (entries : List (ι × Permit)) :
    (entries.filter (·.1 ≠ thread)).map (·.1) = (entries.map (·.1)).filter (· ≠ thread) := by
  simp [List.filter_map, Function.comp_def]

theorem filter_ne_of_not_mem {thread : ι} {entries : List (ι × Permit)}
    (habsent : thread ∉ entries.map (·.1)) : entries.filter (·.1 ≠ thread) = entries := by
  refine List.filter_eq_self.mpr fun entry hentry => ?_
  have hne : entry.1 ≠ thread := by
    rintro rfl
    exact habsent (List.mem_map.mpr ⟨entry, hentry, rfl⟩)
  simpa using hne

theorem isServable_iff (lock : Lock ι) (thread : ι) :
    lock.isServable thread = true ↔
      ∃ head rest, lock.queue = head :: rest ∧ head.thread = thread ∧
        lock.isFree head.permit = true := by
  unfold isServable
  cases hqueue : lock.queue with
  | nil => simp
  | cons head rest => simp

/-- A permit that is free for the first in the queue is one that nobody's permits forbid. -/
theorem admits_of_isFree {lock : Lock ι} {permit : Permit} (hfree : lock.isFree permit = true)
    (thread : ι) : lock.Admits thread permit := by
  cases permit with
  | read =>
    have hnone : lock.writer = none := by simpa [isFree] using hfree
    exact ⟨fun writer hwriter => by simp [hnone] at hwriter, fun hwrite => by cases hwrite⟩
  | write =>
    obtain ⟨hnone, hempty⟩ : lock.writer = none ∧ lock.readers = [] := by
      simpa [isFree] using hfree
    exact ⟨fun writer hwriter => by simp [hnone] at hwriter,
      fun _ other _ => by simp [readCount, hempty]⟩

/-- Serving the first in the queue gives one permit to a thread that had none. -/
theorem reply_serveHead {lock : Lock ι} {head : Waiter ι} {rest : List (Waiter ι)}
    (hqueue : lock.queue = head :: rest) (hfree : lock.isFree head.permit = true)
    (hfirst : head.thread ∉ (rest.map fun w => (w.thread, w.permit)).map (·.1))
    (hidle : ∀ kind, lock.held head.thread kind = 0) :
    Reply lock head.thread head.permit lock.serveHead .granted := by
  have hrest : (rest.map fun w => (w.thread, w.permit)) =
      lock.places.filter (·.1 ≠ head.thread) := by
    rw [places, hqueue, List.map_cons, List.filter_cons_of_neg (by simp),
      filter_ne_of_not_mem hfirst]
  cases hpermit : head.permit with
  | read =>
    have hcount : lock.readCount head.thread = 0 := hidle .read
    refine .granted (admits_of_isFree (hpermit ▸ hfree) _) ⟨?_, ?_, ?_⟩ ?_
    · simp [serveHead, hqueue, hpermit, wakeAll, grant, hcount]
    · simp [serveHead, hqueue, hpermit, wakeAll, grant]
    · simp [serveHead, hqueue, hpermit, wakeAll, grant]
    · rw [← hrest]
      simp [serveHead, hqueue, hpermit, wakeAll, places]
  | write =>
    have hdepth : lock.held head.thread .write = 0 := hidle .write
    refine .granted (admits_of_isFree (hpermit ▸ hfree) _) ⟨?_, ?_, ?_⟩ ?_
    · simp [serveHead, hqueue, hpermit, grant]
    · simp [serveHead, hqueue, hpermit, grant]
    · simp [serveHead, hqueue, hpermit, grant, hdepth]
    · rw [← hrest]
      simp [serveHead, hqueue, hpermit, places]

/-- A newcomer is first in the queue only if nobody was waiting. -/
theorem queue_nil_of_isServable {lock : Lock ι} {waiter : Waiter ι}
    (habsent : waiter.thread ∉ lock.waiting)
    (hserve : { lock with queue := lock.queue ++ [waiter] }.isServable waiter.thread = true) :
    lock.queue = [] := by
  obtain ⟨head, rest, hqueue, hthread, _⟩ := (isServable_iff _ _).mp hserve
  cases hold : lock.queue with
  | nil => rfl
  | cons first others =>
    have hhead : first = head := by
      have hsame : first :: (others ++ [waiter]) = head :: rest := by
        rw [← hqueue, hold, List.cons_append]
      exact (List.cons.inj hsame).1
    exact absurd (by simp [waiting, places, hold, hhead, hthread]) habsent

/-- A thread that joins the queue is served, gives up or waits. -/
theorem reply_enqueue {lock : Lock ι} {thread : ι} (habsent : thread ∉ lock.waiting)
    (hidle : ∀ kind, lock.held thread kind = 0) (permit : Permit) (patience : Patience) :
    Reply lock thread permit (lock.enqueue thread permit patience).1
      (lock.enqueue thread permit patience).2 := by
  unfold enqueue
  extract_lets waiter joined
  have hjoined : joined.places = lock.places ++ [(thread, permit)] := by
    simp [joined, waiter, places]
  by_cases hserve : joined.isServable thread
  · rw [if_pos hserve]
    obtain ⟨head, rest, hqueue, hthread, hfree⟩ := (isServable_iff joined thread).mp hserve
    have hempty : lock.queue = [] := queue_nil_of_isServable habsent hserve
    obtain ⟨rfl, rfl⟩ : waiter = head ∧ [] = rest := by
      have hsame : [waiter] = head :: rest := by
        rw [← hqueue]
        simp [joined, hempty]
      exact List.cons.inj hsame
    have hreply := reply_serveHead hqueue hfree (by simp) hidle
    cases hreply with
    | granted hadmits hholders hwaiting =>
      have hsame : SameHolders joined lock := ⟨rfl, rfl, rfl⟩
      refine .granted ⟨hadmits.writer, hadmits.readers⟩
        (hholders.trans (hsame.grant thread permit)) ?_
      rw [hwaiting, hjoined]
      simp [places, hempty, waiter]
  · rw [if_neg hserve]
    by_cases hnone : patience = .none
    · rw [if_pos hnone]
      refine .timedOut ⟨rfl, rfl, rfl⟩ ?_
      rw [places_giveUp, hjoined, List.filter_append]
      simp
    · rw [if_neg hnone]
      exact .waiting ⟨rfl, rfl, rfl⟩ hidle (.inr ⟨habsent, hjoined⟩)

theorem Sound.reads_iff {lock : Lock ι} (hsound : Sound lock) (thread : ι) :
    lock.reads thread = true ↔ 0 < lock.readCount thread := by
  unfold reads readCount
  cases hcount : lock.readers.lookup thread with
  | none => simp
  | some count =>
    obtain ⟨front, back, hreaders, _⟩ := List.lookup_eq_some_iff.mp hcount
    have hpos := hsound.listed.counts (thread, count) (by simp [hreaders])
    simpa using hpos

/-- A thread on neither side of the lock holds nothing. -/
theorem Sound.held_eq_zero {lock : Lock ι} (hsound : Sound lock) {thread : ι}
    (hreads : lock.reads thread = false) (hwrites : lock.writes thread = false) (kind : Permit) :
    lock.held thread kind = 0 := by
  cases kind with
  | read =>
    have hnot : ¬ 0 < lock.readCount thread := by
      rw [← hsound.reads_iff, hreads]
      simp
    simpa [held] using hnot
  | write => simp [held, hwrites]

/-- A thread with a permit of some kind may read. -/
theorem Sound.admits_read {lock : Lock ι} (hsound : Sound lock) {thread : ι}
    (hholds : lock.reads thread = true ∨ lock.writes thread = true) :
    lock.Admits thread .read := by
  refine ⟨fun writer hwriter => ?_, fun hwrite => by cases hwrite⟩
  rcases hholds with hreads | hwrites
  · by_contra hother
    have hzero := hsound.alone writer hwriter thread (Ne.symm hother)
    have hpos := (hsound.reads_iff thread).mp hreads
    omega
  · have hown : lock.writer = some thread := by simpa [writes] using hwrites
    exact Option.some.inj (hwriter.symm.trans hown)

/-- A call for a permit by a thread that does not wait already. -/
theorem Sound.reply_acquire {lock after : Lock ι} (hsound : Sound lock) {thread : ι}
    (habsent : thread ∉ lock.waiting) {permit : Permit} {patience : Patience} {answer : Answer}
    (hcall : lock.acquire thread permit patience = .ok (after, answer)) :
    Reply lock thread permit after answer := by
  have hwaiting := filter_ne_of_not_mem habsent
  cases permit with
  | read =>
    simp only [acquire, acquireRead, Except.ok.injEq] at hcall
    by_cases hholds : lock.reads thread || lock.writes thread
    · rw [if_pos hholds] at hcall
      cases hcall
      exact .granted (hsound.admits_read (by simpa using hholds)) ⟨rfl, rfl, rfl⟩ hwaiting.symm
    · rw [if_neg hholds] at hcall
      obtain ⟨hreads, hwrites⟩ : lock.reads thread = false ∧ lock.writes thread = false := by
        simpa using hholds
      have hreply := reply_enqueue habsent (hsound.held_eq_zero hreads hwrites) .read patience
      rwa [hcall] at hreply
  | write =>
    simp only [acquire, acquireWrite] at hcall
    by_cases hwrites : lock.writes thread
    · rw [if_pos hwrites] at hcall
      cases hcall
      have hown : lock.writer = some thread := by simpa [writes] using hwrites
      have hadmits := hsound.admits_read (.inr hwrites)
      exact .granted ⟨hadmits.writer, fun _ => hsound.alone thread hown⟩
        ⟨rfl, hown, by simp [grant, held, hwrites]⟩ hwaiting.symm
    · rw [if_neg hwrites] at hcall
      by_cases hreads : lock.reads thread
      · simp [hreads] at hcall
      · rw [if_neg hreads, Except.ok.injEq] at hcall
        have hreply := reply_enqueue habsent
          (hsound.held_eq_zero (by simpa using hreads) (by simpa using hwrites)) .write patience
        rwa [hcall] at hreply

/-- The waiter that is served is the one that its thread has in the queue. -/
theorem Sound.reply_serve {lock : Lock ι} (hsound : Sound lock) {thread : ι} {waiter : Waiter ι}
    (hwaiter : lock.waiter? thread = some waiter) (hserve : lock.isServable thread = true) :
    Reply lock thread waiter.permit lock.serveHead .granted := by
  obtain ⟨head, rest, hqueue, rfl, hfree⟩ := (isServable_iff lock thread).mp hserve
  obtain rfl : head = waiter := by simpa [waiter?, hqueue] using hwaiter
  have hdistinct :
      (head.thread :: (rest.map fun w => (w.thread, w.permit)).map (·.1)).Nodup := by
    have hnodup := hsound.distinct
    rwa [waiting, places, hqueue, List.map_cons, List.map_cons] at hnodup
  refine reply_serveHead hqueue hfree (List.nodup_cons.mp hdistinct).1 ?_
  exact hsound.idle head.thread (by simp [waiting, places, hqueue])

/-- A waiting thread that looks again is served or goes on waiting. -/
theorem Sound.reply_look {lock : Lock ι} (hsound : Sound lock) {thread : ι} {waiter : Waiter ι}
    (hwaiter : lock.waiter? thread = some waiter) :
    Reply lock thread waiter.permit (lock.look thread).1 (lock.look thread).2 := by
  unfold look
  by_cases hserve : lock.isServable thread
  · rw [if_pos hserve]
    exact hsound.reply_serve hwaiter hserve
  · rw [if_neg hserve]
    have hmem : thread ∈ lock.waiting :=
      (mem_waiting_iff_places lock thread).mpr ⟨waiter.permit, mem_places_of_waiter? hwaiter⟩
    refine .waiting ⟨rfl, rfl, rfl⟩ (hsound.idle thread hmem) (.inl ⟨hmem, ?_⟩)
    unfold places
    rw [List.map_map]
    refine List.map_congr_left fun other _ => ?_
    by_cases hother : other.thread = thread <;> simp [hother]

/-- A waiting thread whose patience ends is served or leaves the queue. -/
theorem Sound.reply_expire {lock : Lock ι} (hsound : Sound lock) {thread : ι} {waiter : Waiter ι}
    (hwaiter : lock.waiter? thread = some waiter) :
    Reply lock thread waiter.permit (lock.expire thread).1 (lock.expire thread).2 := by
  unfold expire
  by_cases hserve : lock.isServable thread
  · rw [if_pos hserve]
    exact hsound.reply_serve hwaiter hserve
  · rw [if_neg hserve]
    exact .timedOut ⟨rfl, rfl, rfl⟩ (places_giveUp lock thread)

/-- Of a lock that is sound up to its queue, only the queue has to be looked at. -/
theorem sound_of_sameHolders {before after : Lock ι} (hsame : SameHolders after before)
    (halone : ∀ writer, before.writer = some writer → ∀ other, other ≠ writer →
      before.readCount other = 0)
    (hdepth : 0 < before.depth ↔ before.isWriteHeld = true) (hlisted : Listed before.readers)
    (hdistinct : after.waiting.Nodup)
    (hidle : ∀ thread ∈ after.waiting, ∀ permit, before.held thread permit = 0) : Sound after where
  alone writer hwriter other hother := by
    have hcount : after.readCount other = before.readCount other :=
      congrFun (congrFun hsame.held_eq other) .read
    rw [hcount]
    exact halone writer (hsame.writer ▸ hwriter) other hother
  depth := by
    unfold isWriteHeld at hdepth ⊢
    rw [hsame.depth, hsame.writer]
    exact hdepth
  listed := hsame.readers ▸ hlisted
  distinct := hdistinct
  idle thread hthread permit := by
    rw [hsame.held_eq]
    exact hidle thread hthread permit

theorem Sound.grant_alone {lock : Lock ι} (hsound : Sound lock) {thread : ι} {permit : Permit}
    (hadmits : lock.Admits thread permit) {writer : ι}
    (hwriter : (lock.grant thread permit).writer = some writer) {other : ι}
    (hother : other ≠ writer) : (lock.grant thread permit).readCount other = 0 := by
  have hheld := held_grant hadmits other .read
  cases permit with
  | read =>
    obtain rfl : writer = thread := hadmits.writer writer hwriter
    simpa [held, hother, hsound.alone writer hwriter other hother] using hheld
  | write =>
    obtain rfl : thread = writer := Option.some.inj hwriter
    simpa [held, hadmits.readers rfl other hother] using hheld

theorem Sound.grant_depth {lock : Lock ι} (hsound : Sound lock) (thread : ι) (permit : Permit) :
    0 < (lock.grant thread permit).depth ↔ (lock.grant thread permit).isWriteHeld = true := by
  cases permit with
  | read => exact hsound.depth
  | write => simp [grant, isWriteHeld]

theorem Sound.grant_listed {lock : Lock ι} (hsound : Sound lock) (thread : ι) (permit : Permit) :
    Listed (lock.grant thread permit).readers := by
  cases permit with
  | read => exact hsound.listed.setCount thread (lock.readCount thread + 1)
  | write => exact hsound.listed

theorem waiting_of_places {lock after : Lock ι} {thread : ι}
    (hqueue : after.places = lock.places.filter (·.1 ≠ thread)) :
    after.waiting = lock.waiting.filter (· ≠ thread) := by
  rw [waiting, hqueue, map_filter_ne, waiting]

/-- No reply makes a lock unsound. -/
theorem Sound.of_reply {lock after : Lock ι} (hsound : Sound lock) {thread : ι} {permit : Permit}
    {answer : Answer} (hreply : Reply lock thread permit after answer) : Sound after := by
  cases hreply with
  | granted hadmits hholders hqueue =>
    have hwaiting := waiting_of_places hqueue
    refine sound_of_sameHolders hholders
      (fun _ hwriter _ hother => hsound.grant_alone hadmits hwriter hother)
      (hsound.grant_depth thread permit) (hsound.grant_listed thread permit) ?_ ?_
    · rw [hwaiting]
      exact hsound.distinct.filter _
    · intro other hother kind
      rw [hwaiting, List.mem_filter] at hother
      have hne : other ≠ thread := by simpa using hother.2
      simp [held_grant hadmits, hsound.idle other hother.1 kind, hne]
  | timedOut hholders hqueue =>
    have hwaiting := waiting_of_places hqueue
    refine sound_of_sameHolders hholders hsound.alone hsound.depth hsound.listed ?_ ?_
    · rw [hwaiting]
      exact hsound.distinct.filter _
    · intro other hother
      rw [hwaiting, List.mem_filter] at hother
      exact hsound.idle other hother.1
  | waiting hholders hidle hqueue =>
    rcases hqueue with ⟨_, hsame⟩ | ⟨habsent, hjoined⟩
    · have hwaiting : after.waiting = lock.waiting := by rw [waiting, hsame, waiting]
      exact sound_of_sameHolders hholders hsound.alone hsound.depth hsound.listed
        (hwaiting ▸ hsound.distinct) fun other hother => hsound.idle other (hwaiting ▸ hother)
    · have hwaiting : after.waiting = lock.waiting ++ [thread] := by
        rw [waiting, hjoined, List.map_append, waiting]
        rfl
      refine sound_of_sameHolders hholders hsound.alone hsound.depth hsound.listed ?_ ?_
      · rw [hwaiting]
        refine List.nodup_append.mpr ⟨hsound.distinct, by simp, ?_⟩
        rintro other hother _ hthread rfl
        exact habsent (List.mem_singleton.mp hthread ▸ hother)
      · intro other hother
        rw [hwaiting, List.mem_append, List.mem_singleton] at hother
        rcases hother with hold | rfl
        · exact hsound.idle other hold
        · exact hidle

/-- What giving a permit back comes to: one permit less, and the same queue. -/
structure Returned (lock : Lock ι) (thread : ι) (permit : Permit) (after : Lock ι) : Prop where
  held : 0 < lock.held thread permit
  holders : SameHolders after (lock.revoke thread permit)
  queue : after.places = lock.places

theorem Sound.returned {lock after : Lock ι} (hsound : Sound lock) {thread : ι} {permit : Permit}
    (hrelease : lock.release thread permit = .ok after) : Returned lock thread permit after := by
  cases permit with
  | read =>
    simp only [release, releaseRead] at hrelease
    cases hcount : lock.readCount thread with
    | zero => simp [hcount] at hrelease
    | succ count =>
      have hheld : 0 < lock.held thread .read := by simp [Lock.held, hcount]
      rw [hcount] at hrelease
      by_cases hlast : count = 0
      · simp only [hlast, if_true, Except.ok.injEq] at hrelease
        subst hrelease
        exact ⟨hheld, ⟨by simp [wakeAll, revoke, hcount, hlast], rfl, rfl⟩, places_wakeAll _⟩
      · simp only [hlast, if_false, Except.ok.injEq] at hrelease
        subst hrelease
        exact ⟨hheld, ⟨by simp [revoke, hcount], rfl, rfl⟩, rfl⟩
  | write =>
    simp only [release, releaseWrite] at hrelease
    by_cases hwrites : lock.writes thread
    · have hwriter : lock.writer = some thread := by simpa [writes] using hwrites
      have hdepth : 0 < lock.depth := hsound.depth.mpr (by simp [isWriteHeld, hwriter])
      have hheld : 0 < lock.held thread .write := by simpa [Lock.held, hwrites] using hdepth
      rw [if_pos hwrites] at hrelease
      by_cases hlast : lock.depth = 1
      · rw [if_pos hlast, Except.ok.injEq] at hrelease
        subst hrelease
        exact ⟨hheld, ⟨rfl, by simp [wakeAll, revoke, hlast], by simp [wakeAll, revoke, hlast]⟩,
          places_wakeAll _⟩
      · rw [if_neg hlast, Except.ok.injEq] at hrelease
        subst hrelease
        exact ⟨hheld, ⟨rfl, by simp [revoke, hlast], rfl⟩, rfl⟩
    · simp [hwrites] at hrelease

/-- Giving a permit back keeps a lock sound. -/
theorem Sound.of_returned {lock after : Lock ι} (hsound : Sound lock) {thread : ι}
    {permit : Permit} (hreturned : Returned lock thread permit after) : Sound after := by
  obtain ⟨hheld, hholders, hplaces⟩ := hreturned
  have hqueue : after.waiting = lock.waiting := by rw [waiting, hplaces, waiting]
  have hless := held_revoke hheld
  have hreads (other : ι) : (lock.revoke thread permit).readCount other ≤ lock.readCount other := by
    have hother := hless other .read
    simp only [held] at hother
    omega
  refine sound_of_sameHolders hholders ?_ ?_ ?_ (hqueue ▸ hsound.distinct) ?_
  · intro writer hwriter other hother
    have hwas : lock.writer = some writer := by
      cases permit with
      | read => exact hwriter
      | write =>
        by_cases hlast : lock.depth = 1
        · simp [revoke, hlast] at hwriter
        · simpa [revoke, hlast] using hwriter
    have hzero := hsound.alone writer hwas other hother
    have hle := hreads other
    omega
  · cases permit with
    | read => exact hsound.depth
    | write =>
      have hiff := hsound.depth
      by_cases hlast : lock.depth = 1
      · simp [revoke, isWriteHeld, hlast]
      · simp only [revoke, isWriteHeld, hlast, if_false] at hiff ⊢
        rw [← hiff]
        omega
  · cases permit with
    | read => exact hsound.listed.setCount thread (lock.readCount thread - 1)
    | write => exact hsound.listed
  · intro other hother kind
    have hzero := hsound.idle other (hqueue ▸ hother) kind
    have hother' := hless other kind
    omega

theorem sound_empty : Sound ({} : Lock ι) where
  alone _ hwriter := by cases hwriter
  depth := by simp [isWriteHeld]
  listed := ⟨by simp, by simp⟩
  distinct := by simp [waiting, places]
  idle := by simp [waiting, places]

end AllowPolicy.Lock
