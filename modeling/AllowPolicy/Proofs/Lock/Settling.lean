import AllowPolicy.Proofs.Lock.Wakeup
import Mathlib.Tactic.Ring

namespace AllowPolicy.Lock

variable {ι : Type} [DecidableEq ι]

/-- The lock after these threads have looked, one after the other. -/
def lookAll (lock : Lock ι) (looks : List ι) : Lock ι :=
  looks.foldl (fun lock thread => (lock.look thread).1) lock

/-- Each of these threads has a wake-up to come when its turn to look comes. -/
def Due (lock : Lock ι) : List ι → Prop
  | [] => True
  | thread :: rest =>
    (∃ waiter ∈ lock.queue, waiter.thread = thread ∧ waiter.woken = true) ∧
      (lock.look thread).1.Due rest

omit [DecidableEq ι] in
theorem SameHolders.isFree_eq {a b : Lock ι} (hsame : SameHolders a b) (permit : Permit) :
    a.isFree permit = b.isFree permit := by
  cases permit <;> simp [isFree, hsame.writer, hsame.readers]

/-- A look that serves nobody only puts its own thread back to sleep. -/
theorem look_of_not_servable {lock : Lock ι} {thread : ι}
    (hserve : ¬ lock.isServable thread = true) :
    SameHolders (lock.look thread).1 lock ∧ (lock.look thread).1.places = lock.places := by
  unfold look
  rw [if_neg hserve]
  refine ⟨⟨rfl, rfl, rfl⟩, ?_⟩
  rw [places, List.map_map]
  refine List.map_congr_left fun waiter _ => ?_
  by_cases hown : waiter.thread = thread <;> simp [hown]

theorem Sound.look {lock : Lock ι} (hsound : Sound lock) (thread : ι) :
    Sound (lock.look thread).1 := by
  cases hwaiter : lock.waiter? thread with
  | some waiter => exact hsound.of_reply (hsound.reply_look hwaiter)
  | none =>
    have hserve : ¬ lock.isServable thread = true := by
      intro hserve
      obtain ⟨head, rest, hqueue, hthread, _⟩ := (isServable_iff lock thread).mp hserve
      simp [waiter?, hqueue, hthread] at hwaiter
    obtain ⟨hsame, hplaces⟩ := look_of_not_servable hserve
    have hwaiting : (lock.look thread).1.waiting = lock.waiting := by rw [waiting, hplaces, waiting]
    exact sound_of_sameHolders hsame hsound.alone hsound.depth hsound.listed
      (hwaiting ▸ hsound.distinct) (hwaiting ▸ hsound.idle)

theorem Alert.lookAll {lock : Lock ι} (halert : Alert lock) (looks : List ι) :
    Alert (lock.lookAll looks) := by
  induction looks generalizing lock with
  | nil => exact halert
  | cons thread rest ih => exact ih (halert.look thread)

/-- Of the readers at the front of a queue all but these have their permits, and these are at the
    front still, with nobody writing. -/
structure Entering (front rest : List (ι × Permit)) (lock : Lock ι) (behind : List (ι × Permit)) :
    Prop where
  entered : ∃ done, front = done ++ behind ∧ ∀ place ∈ done, 0 < lock.held place.1 .read
  waits : behind ≠ [] → lock.places = behind ++ rest ∧ lock.writer = none

/-- Whoever looks, no reader at the front is turned away. -/
theorem Entering.look {front rest behind : List (ι × Permit)} {lock : Lock ι}
    (hreaders : ∀ place ∈ front, place.2 = .read) (hsound : Sound lock)
    (hentering : Entering front rest lock behind) (thread : ι) :
    ∃ fewer, Entering front rest (lock.look thread).1 fewer := by
  obtain ⟨⟨done, hfront, hdone⟩, hwaits⟩ := hentering
  by_cases hserve : lock.isServable thread
  · have hlook : (lock.look thread).1 = lock.serveHead := by rw [Lock.look, if_pos hserve]
    obtain ⟨head, others, hqueue, hthread, hfree⟩ := (isServable_iff lock thread).mp hserve
    have hwaiter : lock.waiter? thread = some head := by simp [waiter?, hqueue, hthread]
    have hreply := hsound.reply_serve hwaiter hserve
    cases hreply with
    | granted hadmits hholders _ =>
      have hmore (place : ι × Permit) (hplace : place ∈ done) :
          0 < lock.serveHead.held place.1 .read := by
        have hbefore := hdone place hplace
        rw [hholders.held_eq, held_grant hadmits]
        omega
      rw [hlook]
      cases behind with
      | nil => exact ⟨[], ⟨done, hfront, hmore⟩, fun hnil => absurd rfl hnil⟩
      | cons place fewer =>
        obtain ⟨hplaces, hwriter⟩ := hwaits (List.cons_ne_nil _ _)
        have hmem : place ∈ front := by simp [hfront]
        rw [places, hqueue, List.map_cons, List.cons_append, List.cons.injEq] at hplaces
        obtain ⟨rfl, hothers⟩ := hplaces
        have hpermit : head.permit = .read := hreaders _ hmem
        refine ⟨fewer, ⟨done ++ [(head.thread, head.permit)], by simp [hfront], ?_⟩, fun _ => ?_⟩
        · intro other hother
          cases List.mem_append.mp hother with
          | inl hold => exact hmore other hold
          | inr hnew =>
            obtain rfl := List.mem_singleton.mp hnew
            rw [hholders.held_eq, held_grant hadmits, hpermit]
            simp [hthread]
        · constructor
          · rw [← hothers]
            simp [serveHead, hqueue, hpermit, wakeAll, places]
          · simpa [serveHead, hqueue, hpermit, wakeAll] using hwriter
  · obtain ⟨hsame, hplaces⟩ := look_of_not_servable hserve
    refine ⟨behind, ⟨done, hfront, fun place hplace => ?_⟩, fun hbehind => ?_⟩
    · rw [hsame.held_eq]
      exact hdone place hplace
    · obtain ⟨hold, hwriter⟩ := hwaits hbehind
      exact ⟨hplaces.trans hold, hsame.writer.trans hwriter⟩

theorem Entering.lookAll {front rest behind : List (ι × Permit)} {lock : Lock ι}
    (hreaders : ∀ place ∈ front, place.2 = .read) (hsound : Sound lock)
    (hentering : Entering front rest lock behind) (looks : List ι) :
    ∃ fewer, Entering front rest (lock.lookAll looks) fewer := by
  induction looks generalizing lock behind with
  | nil => exact ⟨behind, hentering⟩
  | cons thread others ih =>
    obtain ⟨fewer, hnext⟩ := hentering.look hreaders hsound thread
    exact ih (hsound.look thread) hnext

/-- Readers at the front of a queue all enter, with no permit given back meanwhile, whatever the
    order in which threads look until none has a wake-up to come. -/
theorem held_read_of_asleep {lock : Lock ι} (hsound : Sound lock) (halert : Alert lock)
    {front rest : List (ι × Permit)} (hplaces : lock.places = front ++ rest)
    (hreaders : ∀ place ∈ front, place.2 = .read) (hwriter : lock.writer = none) {looks : List ι}
    (hasleep : (lock.lookAll looks).Asleep) :
    ∀ place ∈ front, 0 < (lock.lookAll looks).held place.1 .read := by
  have hstart : Entering front rest lock front :=
    ⟨⟨[], rfl, fun _ hnone => by cases hnone⟩, fun _ => ⟨hplaces, hwriter⟩⟩
  obtain ⟨fewer, ⟨done, hfront, hdone⟩, hwaits⟩ := hstart.lookAll hreaders hsound looks
  have hlast := halert.lookAll looks
  cases fewer with
  | nil =>
    rw [List.append_nil] at hfront
    exact hfront ▸ hdone
  | cons place others =>
    obtain ⟨hfirst, hidle⟩ := hwaits (List.cons_ne_nil _ _)
    obtain ⟨head, tail, hqueue, hplace, _⟩ := List.map_eq_cons_iff.mp hfirst
    have hpermit : head.permit = .read := by
      have hread := hreaders place (by simp [hfront])
      rwa [← hplace] at hread
    have hwoken := hlast head tail hqueue (by simp [isFree, hpermit, hidle])
    rw [hasleep head (by simp [hqueue])] at hwoken
    cases hwoken

/-- Bounds the looks that woken threads can still take. -/
def unrest (lock : Lock ι) : Nat :=
  lock.queue.length * (lock.queue.length + 1) + lock.queue.countP (·.woken)

/-- A woken thread that looks in vain has no wake-up to come any more, and wakes nobody. -/
theorem countP_woken_lt {queue : List (Waiter ι)} {waiter : Waiter ι} (hmem : waiter ∈ queue)
    (hwoken : waiter.woken = true) :
    (queue.map fun w => if w.thread = waiter.thread then { w with woken := false } else w).countP
      (·.woken) < queue.countP (·.woken) := by
  let sleep : Waiter ι → Waiter ι := fun w =>
    if w.thread = waiter.thread then { w with woken := false } else w
  have hless (part : List (Waiter ι)) :
      (part.map sleep).countP (·.woken) ≤ part.countP (·.woken) := by
    rw [List.countP_map]
    refine List.countP_mono_left fun other _ hother => ?_
    by_cases hown : other.thread = waiter.thread
    · simp [sleep, hown] at hother
    · simpa [sleep, hown] using hother
  obtain ⟨before, after, hsplit⟩ := List.append_of_mem hmem
  have hbefore := hless before
  have hafter := hless after
  change (queue.map sleep).countP _ < _
  simp only [hsplit, List.map_append, List.map_cons, List.countP_append, List.countP_cons, hwoken,
    sleep, if_true] at hbefore hafter ⊢
  simp only [Bool.false_eq_true, if_false]
  omega

theorem unrest_look_lt {lock : Lock ι} {waiter : Waiter ι} (hmem : waiter ∈ lock.queue)
    (hwoken : waiter.woken = true) : (lock.look waiter.thread).1.unrest < lock.unrest := by
  unfold look
  by_cases hserve : lock.isServable waiter.thread
  · rw [if_pos hserve]
    obtain ⟨head, rest, hqueue, _, _⟩ := (isServable_iff lock _).mp hserve
    have hlength : lock.serveHead.queue.length = rest.length := by
      cases hpermit : head.permit <;> simp [serveHead, hqueue, hpermit, wakeAll]
    have hcount : lock.serveHead.queue.countP (·.woken) ≤ rest.length :=
      hlength ▸ List.countP_le_length
    have hbefore : lock.queue.length = rest.length + 1 := by simp [hqueue]
    have hexpand : (rest.length + 1) * (rest.length + 1 + 1) =
        rest.length * (rest.length + 1) + 2 * (rest.length + 1) := by ring
    simp only [unrest, hlength, hbefore, hexpand]
    omega
  · rw [if_neg hserve]
    have hcount := countP_woken_lt hmem hwoken
    simp only [unrest, List.length_map]
    omega

theorem Due.length_le {lock : Lock ι} {looks : List ι} (hdue : lock.Due looks) :
    looks.length ≤ lock.unrest := by
  induction looks generalizing lock with
  | nil => exact Nat.zero_le _
  | cons thread rest ih =>
    obtain ⟨⟨waiter, hmem, rfl, hwoken⟩, hrest⟩ := hdue
    have hless := unrest_look_lt hmem hwoken
    have hlater := ih hrest
    rw [List.length_cons]
    omega

/-- Woken threads that look one after the other come to rest. -/
theorem exists_asleep (lock : Lock ι) : ∃ looks, lock.Due looks ∧ (lock.lookAll looks).Asleep := by
  by_cases hasleep : lock.Asleep
  · exact ⟨[], trivial, hasleep⟩
  · obtain ⟨waiter, hmem, hwoken⟩ : ∃ waiter ∈ lock.queue, waiter.woken = true := by
      simpa [Asleep] using hasleep
    have hless := unrest_look_lt hmem hwoken
    obtain ⟨looks, hdue, hrest⟩ := exists_asleep (lock.look waiter.thread).1
    exact ⟨waiter.thread :: looks, ⟨⟨waiter, hmem, rfl, hwoken⟩, hdue⟩, hrest⟩
termination_by lock.unrest

/-- A permit that is not free is one that somebody's permits forbid. -/
theorem Sound.exists_held_of_not_free {lock : Lock ι} (hsound : Sound lock) {permit : Permit}
    (hfree : ¬ lock.isFree permit = true) :
    (∃ thread, 0 < lock.held thread .write) ∨
      permit = .write ∧ ∃ thread, 0 < lock.held thread .read := by
  cases hwriter : lock.writer with
  | some writer =>
    have hdepth : 0 < lock.depth := hsound.depth.mpr (by simp [isWriteHeld, hwriter])
    exact .inl ⟨writer, by simpa [held, writes, hwriter] using hdepth⟩
  | none =>
    cases permit with
    | read => simp [isFree, hwriter] at hfree
    | write =>
      cases hreaders : lock.readers with
      | nil => simp [isFree, hwriter, hreaders] at hfree
      | cons entry rest =>
        obtain ⟨thread, count⟩ := entry
        have hcount := hsound.listed.counts (thread, count) (by simp [hreaders])
        refine .inr ⟨rfl, thread, ?_⟩
        simpa [held, readCount, hreaders] using hcount

/-- Nobody who waits at a lock is forgotten. -/
structure Lively (lock : Lock ι) : Prop where
  /-- Whoever is first and whose permit is free has a wake-up to come, and is served on looking. -/
  first : ∀ head rest, lock.queue = head :: rest → lock.isFree head.permit = true →
    head.woken = true ∧ (lock.look head.thread).2 = .granted
  /-- With no wake-up to come, a reader is first only while somebody writes. -/
  reader : lock.Asleep → ∀ head rest, lock.queue = head :: rest → head.permit = .read →
    ∃ thread, 0 < lock.held thread .write
  /-- With no wake-up to come, a writer is first only while somebody has a permit. -/
  writer : lock.Asleep → ∀ head rest, lock.queue = head :: rest → head.permit = .write →
    ∃ thread kind, 0 < lock.held thread kind
  /-- While nobody has a permit, the first is about to be served. -/
  unused : (∀ thread kind, lock.held thread kind = 0) → ∀ head rest, lock.queue = head :: rest →
    head.woken = true ∧ (lock.look head.thread).2 = .granted
  /-- Whoever waits has no permit itself. -/
  idle : ∀ waiter ∈ lock.queue, ∀ kind, lock.held waiter.thread kind = 0
  /-- Readers at the front enter together, whatever the order in which threads look until nobody
      has a wake-up to come, with no permit given back meanwhile. -/
  together : ∀ front rest, lock.places = front ++ rest → (∀ place ∈ front, place.2 = .read) →
    lock.writer = none → ∀ looks, (lock.lookAll looks).Asleep →
    ∀ place ∈ front, 0 < (lock.lookAll looks).held place.1 .read
  /-- When the first runs out of patience, all behind it are woken and no permit changes hands. So
      the next is served if its permit is free, -/
  next : ∀ head rest, lock.queue = head :: rest → ¬ lock.isFree head.permit = true →
    SameHolders (lock.expire head.thread).1 lock ∧
      (lock.expire head.thread).1.queue = rest.map (fun waiter => { waiter with woken := true }) ∧
      ∀ second others, rest = second :: others → lock.isFree second.permit = true →
        ((lock.expire head.thread).1.look second.thread).2 = .granted
  /-- and readers behind it enter together. -/
  behind : ∀ head others, lock.queue = head :: others → ¬ lock.isFree head.permit = true →
    ∀ front rest, (others.map fun waiter => (waiter.thread, waiter.permit)) = front ++ rest →
    (∀ place ∈ front, place.2 = .read) → lock.writer = none →
    ∀ looks, ((lock.expire head.thread).1.lookAll looks).Asleep →
    ∀ place ∈ front, 0 < ((lock.expire head.thread).1.lookAll looks).held place.1 .read
  /-- Woken threads that look, in any order, come to rest, -/
  bounded : ∀ looks, lock.Due looks → looks.length ≤ lock.queue.length * (lock.queue.length + 2)
  /-- and go on looking as long as one has a wake-up to come. -/
  settles : ∃ looks, lock.Due looks ∧ (lock.lookAll looks).Asleep

theorem look_granted {lock : Lock ι} {head : Waiter ι} {rest : List (Waiter ι)}
    (hqueue : lock.queue = head :: rest) (hfree : lock.isFree head.permit = true) :
    (lock.look head.thread).2 = .granted := by
  have hserve := (isServable_iff lock head.thread).mpr ⟨head, rest, hqueue, rfl, hfree⟩
  rw [look, if_pos hserve]

/-- What is left when the first runs out of patience. -/
theorem Sound.expire_head {lock : Lock ι} (hsound : Sound lock) {head : Waiter ι}
    {rest : List (Waiter ι)} (hqueue : lock.queue = head :: rest)
    (hfree : ¬ lock.isFree head.permit = true) :
    SameHolders (lock.expire head.thread).1 lock ∧
      (lock.expire head.thread).1.queue = rest.map fun waiter => { waiter with woken := true } := by
  have hserve : ¬ lock.isServable head.thread = true := by
    intro hserve
    obtain ⟨first, others, hsame, _, hserved⟩ := (isServable_iff lock _).mp hserve
    rw [hqueue, List.cons.injEq] at hsame
    exact hfree (hsame.1 ▸ hserved)
  have hdistinct : (head.thread :: rest.map (·.thread)).Nodup := by
    have hnodup := hsound.distinct
    rwa [waiting, places, List.map_map, hqueue, List.map_cons] at hnodup
  have hothers : rest.filter (·.thread ≠ head.thread) = rest := by
    refine List.filter_eq_self.mpr fun other hother => ?_
    have hne : other.thread ≠ head.thread := by
      intro hsame
      exact (List.nodup_cons.mp hdistinct).1 (hsame ▸ List.mem_map.mpr ⟨other, hother, rfl⟩)
    simpa using hne
  rw [expire, if_neg hserve]
  refine ⟨⟨rfl, rfl, rfl⟩, ?_⟩
  rw [giveUp, wakeAll, hqueue, List.filter_cons_of_neg (by simp), hothers]

theorem Sound.expire {lock : Lock ι} (hsound : Sound lock) {head : Waiter ι}
    {rest : List (Waiter ι)} (hqueue : lock.queue = head :: rest) :
    Sound (lock.expire head.thread).1 := by
  have hwaiter : lock.waiter? head.thread = some head := by simp [waiter?, hqueue]
  exact hsound.of_reply (hsound.reply_expire hwaiter)

end AllowPolicy.Lock
