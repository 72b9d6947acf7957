import AllowPolicy.Proofs.Lock.Holds
import AllowPolicy.Proofs.Lock.Ledger
import Mathlib.Data.List.Induction
import Mathlib.Data.List.Nodup

namespace AllowPolicy.Lock

variable {ι : Type} [DecidableEq ι]

/-- A place in the queue, numbered in the order of arrival. -/
structure Ticket (ι : Type) where
  number : Nat
  thread : ι
  permit : Permit
  deriving DecidableEq

def Ticket.place (ticket : Ticket ι) : ι × Permit := (ticket.thread, ticket.permit)

/-- A lock beside a record of the tickets that were drawn at it. The record is kept by what the
    threads are told alone: it never looks into the queue. -/
structure Docket (ι : Type) where
  lock : Lock ι := {}
  /-- How many tickets were drawn. -/
  drawn : Nat := 0
  /-- The tickets of the threads that wait, the oldest first. -/
  waiting : List (Ticket ι) := []
  /-- The tickets that brought a permit, in the order in which they did. -/
  served : List (Ticket ι) := []
  /-- The tickets of threads that ran out of patience. -/
  left : List (Ticket ι) := []

namespace Docket

/-- The ticket of a thread that waits. -/
def ticket? (docket : Docket ι) (thread : ι) : Option (Ticket ι) :=
  docket.waiting.find? (·.thread = thread)

/-- A thread arrives and draws the next ticket. -/
def draw (docket : Docket ι) (thread : ι) (permit : Permit) : Docket ι :=
  { docket with
    drawn := docket.drawn + 1
    waiting := docket.waiting ++ [⟨docket.drawn, thread, permit⟩] }

/-- The tickets of the threads that wait, less one. -/
def without (docket : Docket ι) (ticket : Ticket ι) : List (Ticket ι) :=
  docket.waiting.filter (·.number ≠ ticket.number)

/-- The thread of a ticket hears what has become of its request. -/
def hear (docket : Docket ι) (ticket : Ticket ι) : Lock ι × Answer → Docket ι
  | (lock, .granted) =>
    { docket with lock, waiting := docket.without ticket, served := docket.served ++ [ticket] }
  | (lock, .timedOut) =>
    { docket with lock, waiting := docket.without ticket, left := docket.left ++ [ticket] }
  | (lock, .waiting) => { docket with lock }

/-- The docket after an event. A thread that waits makes no call, and only threads that wait look
    again or run out of patience. -/
def perform (docket : Docket ι) : Event ι → Docket ι
  | .ask thread permit patience =>
    if (docket.ticket? thread).isSome then docket
    else
      match docket.lock.acquire thread permit patience with
      | .error _ => docket
      | .ok reply =>
        if docket.lock.holds thread then { docket with lock := reply.1 }
        else (docket.draw thread permit).hear ⟨docket.drawn, thread, permit⟩ reply
  | .give thread permit =>
    if (docket.ticket? thread).isSome then docket
    else
      match docket.lock.release thread permit with
      | .ok lock => { docket with lock }
      | .error _ => docket
  | .look thread =>
    match docket.ticket? thread with
    | some ticket => docket.hear ticket (docket.lock.look thread)
    | none => docket
  | .expire thread =>
    match docket.ticket? thread with
    | some ticket =>
      if docket.lock.mayExpire thread then docket.hear ticket (docket.lock.expire thread)
      else docket
    | none => docket

/-- The docket after events in some order, at a lock that nobody has used yet. -/
def run (events : List (Event ι)) : Docket ι := events.foldl perform {}

/-- What an event comes to: nothing, a further permit of a thread with permits, a permit given back,
    a new ticket, or an answer to an old one. A ticket is served only if no older one waits. -/
inductive Step (docket : Docket ι) : Docket ι → Prop
  | nothing : Step docket docket
  | again {lock : Lock ι} {thread : ι} {permit : Permit} (holds : docket.lock.holds thread = true)
      (reply : Reply docket.lock thread permit lock .granted) : Step docket { docket with lock }
  | back {lock : Lock ι} {thread : ι} {permit : Permit}
      (returned : Returned docket.lock thread permit lock) : Step docket { docket with lock }
  | arrival {lock : Lock ι} {thread : ι} {permit : Permit} {answer : Answer}
      (holds : docket.lock.holds thread = false) (absent : thread ∉ docket.lock.waiting)
      (reply : Reply docket.lock thread permit lock answer)
      (first : answer = .granted → docket.waiting = []) :
      Step docket ((docket.draw thread permit).hear ⟨docket.drawn, thread, permit⟩ (lock, answer))
  | answer {lock : Lock ι} {ticket : Ticket ι} {answer : Answer} (waits : ticket ∈ docket.waiting)
      (reply : Reply docket.lock ticket.thread ticket.permit lock answer)
      (first : answer = .granted → ∃ rest, docket.waiting = ticket :: rest) :
      Step docket (docket.hear ticket (lock, answer))

/-- Tickets are served and wait in the order of their numbers. -/
structure Numbered (docket : Docket ι) : Prop where
  sorted : (docket.served ++ docket.waiting).Pairwise (·.number < ·.number)
  drawn : ∀ ticket ∈ docket.served ++ docket.waiting, ticket.number < docket.drawn

/-- The queue is that of the tickets that wait. -/
structure Kept (docket : Docket ι) : Prop where
  sound : Sound docket.lock
  queue : docket.lock.places = docket.waiting.map Ticket.place
  numbered : Numbered docket

variable {docket after : Docket ι} {ticket : Ticket ι} {thread : ι} {permit : Permit}

omit [DecidableEq ι] in
theorem Numbered.pairwise_waiting (hnumbered : Numbered docket) :
    docket.waiting.Pairwise (·.number < ·.number) :=
  (List.pairwise_append.mp hnumbered.sorted).2.1

omit [DecidableEq ι] in
theorem Numbered.eq_of_number (hnumbered : Numbered docket) {other : Ticket ι}
    (hother : other ∈ docket.waiting) (hwaits : ticket ∈ docket.waiting)
    (hnumber : other.number = ticket.number) : other = ticket := by
  have hnumbers : (docket.waiting.map (·.number)).Nodup :=
    List.pairwise_map.mpr (hnumbered.pairwise_waiting.imp Nat.ne_of_lt)
  exact List.inj_on_of_nodup_map hnumbers hother hwaits hnumber

omit [DecidableEq ι] in
theorem Numbered.number_lt (hnumbered : Numbered docket) {rest : List (Ticket ι)}
    (hfirst : docket.waiting = ticket :: rest) {other : Ticket ι} (hother : other ∈ rest) :
    ticket.number < other.number := by
  have hsorted := hnumbered.pairwise_waiting
  rw [hfirst] at hsorted
  exact (List.pairwise_cons.mp hsorted).1 other hother

omit [DecidableEq ι] in
theorem Numbered.without_head (hnumbered : Numbered docket) {rest : List (Ticket ι)}
    (hfirst : docket.waiting = ticket :: rest) : docket.without ticket = rest := by
  rw [without, hfirst, List.filter_cons_of_neg (by simp)]
  refine List.filter_eq_self.mpr fun other hother => ?_
  have hlater := hnumbered.number_lt hfirst hother
  simpa using Nat.ne_of_gt hlater

omit [DecidableEq ι] in
theorem Numbered.draw (hnumbered : Numbered docket) (thread : ι) (permit : Permit) :
    Numbered (docket.draw thread permit) := by
  constructor
  · simp only [Docket.draw]
    rw [← List.append_assoc]
    refine List.pairwise_append.mpr ⟨hnumbered.sorted, List.pairwise_singleton _ _, ?_⟩
    intro old hold new hnew
    obtain rfl := List.mem_singleton.mp hnew
    exact hnumbered.drawn old hold
  · intro other hother
    simp only [Docket.draw] at hother ⊢
    rw [← List.append_assoc, List.mem_append, List.mem_singleton] at hother
    cases hother with
    | inl hold => exact Nat.lt_succ_of_lt (hnumbered.drawn other hold)
    | inr hnew => simp [hnew]

omit [DecidableEq ι] in
theorem Numbered.hear (hnumbered : Numbered docket) {lock : Lock ι} {answer : Answer}
    (hfirst : answer = .granted → ∃ rest, docket.waiting = ticket :: rest) :
    Numbered (docket.hear ticket (lock, answer)) := by
  cases answer with
  | granted =>
    obtain ⟨rest, hrest⟩ := hfirst rfl
    have hsame : (docket.served ++ [ticket]) ++ docket.without ticket =
        docket.served ++ docket.waiting := by
      rw [hnumbered.without_head hrest, hrest, List.append_assoc, List.singleton_append]
    exact ⟨hsame ▸ hnumbered.sorted, hsame ▸ hnumbered.drawn⟩
  | timedOut =>
    have hfewer : (docket.served ++ docket.without ticket).Sublist
        (docket.served ++ docket.waiting) :=
      (List.Sublist.refl _).append List.filter_sublist
    exact ⟨hnumbered.sorted.sublist hfewer, fun other hother =>
      hnumbered.drawn other (hfewer.subset hother)⟩
  | waiting => exact ⟨hnumbered.sorted, hnumbered.drawn⟩

omit [DecidableEq ι] in
theorem Numbered.without_draw (hnumbered : Numbered docket) (thread : ι) (permit : Permit) :
    (docket.draw thread permit).without ⟨docket.drawn, thread, permit⟩ = docket.waiting := by
  have hold : docket.waiting.filter (·.number ≠ docket.drawn) = docket.waiting := by
    refine List.filter_eq_self.mpr fun other hother => ?_
    have hearlier := hnumbered.drawn other (List.mem_append_right _ hother)
    simpa using Nat.ne_of_lt hearlier
  rw [without, Docket.draw, List.filter_append, hold, List.filter_cons_of_neg (by simp),
    List.filter_nil, List.append_nil]

theorem Kept.waiting_eq (hkept : Kept docket) :
    docket.lock.waiting = docket.waiting.map (·.thread) := by
  rw [Lock.waiting, hkept.queue, List.map_map]
  rfl

theorem Kept.mem_waiting (hkept : Kept docket) (hwaits : ticket ∈ docket.waiting) :
    ticket.thread ∈ docket.lock.waiting := by
  rw [hkept.waiting_eq]
  exact List.mem_map.mpr ⟨ticket, hwaits, rfl⟩

theorem Kept.eq_of_thread (hkept : Kept docket) {other : Ticket ι} (hother : other ∈ docket.waiting)
    (hwaits : ticket ∈ docket.waiting) (hthread : other.thread = ticket.thread) :
    other = ticket := by
  have hthreads : (docket.waiting.map (·.thread)).Nodup := by
    rw [← hkept.waiting_eq]
    exact hkept.sound.distinct
  exact List.inj_on_of_nodup_map hthreads hother hwaits hthread

/-- A thread that waits has one ticket, so it makes no difference whether its ticket or its place
    in the queue is taken away. -/
theorem Kept.places_without (hkept : Kept docket) (hwaits : ticket ∈ docket.waiting) :
    docket.lock.places.filter (·.1 ≠ ticket.thread) = (docket.without ticket).map Ticket.place := by
  rw [hkept.queue, List.filter_map, without]
  congr 1
  refine List.filter_congr fun other hother => ?_
  have hsame : other.thread = ticket.thread ↔ other.number = ticket.number := by
    constructor
    · intro hthread
      rw [hkept.eq_of_thread hother hwaits hthread]
    · intro hnumber
      rw [hkept.numbered.eq_of_number hother hwaits hnumber]
  simp [Ticket.place, hsame]

theorem Kept.arrival (hkept : Kept docket) {lock : Lock ι} {answer : Answer}
    (habsent : thread ∉ docket.lock.waiting) (hreply : Reply docket.lock thread permit lock answer)
    (hfirst : answer = .granted → docket.waiting = []) :
    Kept ((docket.draw thread permit).hear ⟨docket.drawn, thread, permit⟩ (lock, answer)) := by
  have hsound := hkept.sound.of_reply hreply
  have hnumbered :
      Numbered ((docket.draw thread permit).hear ⟨docket.drawn, thread, permit⟩ (lock, answer)) :=
    (hkept.numbered.draw thread permit).hear fun hgranted =>
      ⟨[], by simp [Docket.draw, hfirst hgranted]⟩
  have hplaces : docket.lock.places.filter (·.1 ≠ thread) = docket.lock.places :=
    filter_ne_of_not_mem habsent
  have hwithout := hkept.numbered.without_draw thread permit
  refine ⟨?_, ?_, hnumbered⟩
  · cases answer <;> exact hsound
  · cases hreply with
    | granted _ _ hqueue =>
      change lock.places = _
      rw [hear, hwithout, hqueue, hplaces, hkept.queue]
    | timedOut _ hqueue =>
      change lock.places = _
      rw [hear, hwithout, hqueue, hplaces, hkept.queue]
    | waiting _ _ hqueue =>
      obtain ⟨hmem, _⟩ | ⟨_, hjoined⟩ := hqueue
      · exact absurd hmem habsent
      · change lock.places = _
        rw [hjoined, hkept.queue]
        simp [hear, Docket.draw, Ticket.place]

theorem Kept.answer (hkept : Kept docket) {lock : Lock ι} {answer : Answer}
    (hwaits : ticket ∈ docket.waiting)
    (hreply : Reply docket.lock ticket.thread ticket.permit lock answer)
    (hfirst : answer = .granted → ∃ rest, docket.waiting = ticket :: rest) :
    Kept (docket.hear ticket (lock, answer)) := by
  have hsound := hkept.sound.of_reply hreply
  have hnumbered : Numbered (docket.hear ticket (lock, answer)) := hkept.numbered.hear hfirst
  have hplaces := hkept.places_without hwaits
  refine ⟨?_, ?_, hnumbered⟩
  · cases answer <;> exact hsound
  · cases hreply with
    | granted _ _ hqueue => exact hqueue.trans hplaces
    | timedOut _ hqueue => exact hqueue.trans hplaces
    | waiting _ _ hqueue =>
      obtain ⟨_, hsame⟩ | ⟨habsent, _⟩ := hqueue
      · exact hsame.trans hkept.queue
      · exact absurd (hkept.mem_waiting hwaits) habsent

/-- Every step keeps the queue and the tickets together. -/
theorem Kept.step (hkept : Kept docket) (hstep : Step docket after) : Kept after := by
  have hnumbered := hkept.numbered
  cases hstep with
  | nothing => exact hkept
  | @again lock thread permit hholds hreply =>
    have habsent : thread ∉ docket.lock.waiting := by
      intro hmem
      obtain ⟨kind, hheld⟩ := hkept.sound.exists_held_of_holds hholds
      have hidle := hkept.sound.idle thread hmem kind
      omega
    have hsound := hkept.sound.of_reply hreply
    cases hreply with
    | granted _ _ hqueue =>
      have hplaces : lock.places = docket.waiting.map Ticket.place := by
        rw [hqueue, filter_ne_of_not_mem habsent, hkept.queue]
      exact ⟨hsound, hplaces, hnumbered.sorted, hnumbered.drawn⟩
  | back hreturned =>
    exact ⟨hkept.sound.of_returned hreturned, hreturned.queue.trans hkept.queue, hnumbered.sorted,
      hnumbered.drawn⟩
  | arrival _ habsent hreply hfirst => exact hkept.arrival habsent hreply hfirst
  | answer hwaits hreply hfirst => exact hkept.answer hwaits hreply hfirst

theorem Kept.ticket?_isSome_iff (hkept : Kept docket) (thread : ι) :
    (docket.ticket? thread).isSome = true ↔ docket.lock.isWaiting thread = true := by
  rw [← mem_waiting_iff, hkept.waiting_eq, ticket?, List.find?_isSome]
  simp

theorem ticket?_eq_some (hticket : docket.ticket? thread = some ticket) :
    ticket ∈ docket.waiting ∧ ticket.thread = thread :=
  ⟨List.mem_of_find?_eq_some hticket, by simpa using List.find?_some hticket⟩

/-- The ticket of a thread is for the permit that the thread waits for. -/
theorem Kept.waiter?_of_ticket? (hkept : Kept docket)
    (hticket : docket.ticket? thread = some ticket) :
    ∃ waiter, docket.lock.waiter? thread = some waiter ∧ waiter.permit = ticket.permit := by
  obtain ⟨hwaits, hthread⟩ := ticket?_eq_some hticket
  have hwaiting : docket.lock.isWaiting thread = true := by
    rw [← hkept.ticket?_isSome_iff, hticket]
    rfl
  have hsome : (docket.lock.waiter? thread).isSome = true := by
    rw [Lock.waiter?, List.find?_isSome]
    simpa [isWaiting] using hwaiting
  obtain ⟨waiter, hwaiter⟩ := Option.isSome_iff_exists.mp hsome
  have hplace := mem_places_of_waiter? hwaiter
  rw [hkept.queue] at hplace
  obtain ⟨other, hother, hsame⟩ := List.mem_map.mp hplace
  obtain ⟨hotherThread, hpermit⟩ := Prod.mk.inj hsame
  obtain rfl := hkept.eq_of_thread hother hwaits (hotherThread.trans hthread.symm)
  exact ⟨waiter, hwaiter, hpermit.symm⟩

/-- A thread that can be served has the oldest ticket. -/
theorem Kept.first_of_isServable (hkept : Kept docket) (hwaits : ticket ∈ docket.waiting)
    (hserve : docket.lock.isServable ticket.thread = true) :
    ∃ rest, docket.waiting = ticket :: rest := by
  obtain ⟨head, others, hqueue, hthread, _⟩ := (isServable_iff _ _).mp hserve
  have hplaces := hkept.queue
  rw [places, hqueue, List.map_cons] at hplaces
  cases hwaiting : docket.waiting with
  | nil => simp [hwaiting] at hwaits
  | cons first rest =>
    rw [hwaiting, List.map_cons] at hplaces
    have hfirst : head.thread = first.thread := (Prod.mk.inj (List.cons.inj hplaces).1).1
    have hmem : first ∈ docket.waiting := by simp [hwaiting]
    obtain rfl := hkept.eq_of_thread hmem hwaits (hfirst.symm.trans hthread)
    exact ⟨rest, rfl⟩

theorem Kept.queue_nil_iff (hkept : Kept docket) :
    docket.lock.queue = [] ↔ docket.waiting = [] := by
  rw [← List.map_eq_nil_iff (f := Ticket.place), ← hkept.queue, places, List.map_eq_nil_iff]

/-- Every event is a step. -/
theorem Kept.step_perform (hkept : Kept docket) (event : Event ι) :
    Step docket (docket.perform event) := by
  have hsound := hkept.sound
  cases event with
  | ask thread permit patience =>
    simp only [perform]
    by_cases hticket : (docket.ticket? thread).isSome
    · rw [if_pos hticket]
      exact .nothing
    · rw [if_neg hticket]
      have habsent : thread ∉ docket.lock.waiting := by
        rwa [mem_waiting_iff, ← hkept.ticket?_isSome_iff]
      cases hcall : docket.lock.acquire thread permit patience with
      | error failure => exact .nothing
      | ok reply =>
        obtain ⟨lock, answer⟩ := reply
        have hreply := hsound.reply_acquire habsent hcall
        cases hholds : docket.lock.holds thread with
        | true =>
          obtain rfl := granted_of_holds hholds hcall
          exact .again hholds hreply
        | false =>
          refine .arrival hholds habsent hreply fun hgranted => hkept.queue_nil_iff.mp ?_
          rw [acquire_eq_enqueue hholds, Except.ok.injEq] at hcall
          exact queue_nil_of_enqueue_granted habsent (by rw [hcall]; exact hgranted)
  | give thread permit =>
    simp only [perform]
    by_cases hticket : (docket.ticket? thread).isSome
    · rw [if_pos hticket]
      exact .nothing
    · rw [if_neg hticket]
      cases hrelease : docket.lock.release thread permit with
      | error failure => exact .nothing
      | ok lock => exact .back (hsound.returned hrelease)
  | look thread =>
    simp only [perform]
    cases hticket : docket.ticket? thread with
    | none => exact .nothing
    | some ticket =>
      obtain ⟨hwaits, rfl⟩ := ticket?_eq_some hticket
      obtain ⟨waiter, hwaiter, hpermit⟩ := hkept.waiter?_of_ticket? hticket
      have hreply := hsound.reply_look hwaiter
      rw [hpermit] at hreply
      exact .answer hwaits hreply fun hgranted =>
        hkept.first_of_isServable hwaits (isServable_of_look hgranted)
  | expire thread =>
    simp only [perform]
    cases hticket : docket.ticket? thread with
    | none => exact .nothing
    | some ticket =>
      by_cases hlimited : docket.lock.mayExpire thread
      · simp only [hlimited, if_true]
        obtain ⟨hwaits, rfl⟩ := ticket?_eq_some hticket
        obtain ⟨waiter, hwaiter, hpermit⟩ := hkept.waiter?_of_ticket? hticket
        have hreply := hsound.reply_expire hwaiter
        rw [hpermit] at hreply
        exact .answer hwaits hreply fun hgranted =>
          hkept.first_of_isServable hwaits (isServable_of_expire hgranted)
      · simp only [hlimited, Bool.false_eq_true, if_false]
        exact .nothing

theorem Kept.perform (hkept : Kept docket) (event : Event ι) : Kept (docket.perform event) :=
  hkept.step (hkept.step_perform event)

theorem run_concat (events : List (Event ι)) (event : Event ι) :
    run (events ++ [event]) = (run events).perform event := by
  rw [run, List.foldl_append]
  rfl

theorem kept_run (events : List (Event ι)) : Kept (run events) := by
  induction events using List.reverseRecOn with
  | nil => exact ⟨sound_empty, rfl, ⟨List.Pairwise.nil, by simp [run]⟩⟩
  | append_singleton events event ih =>
    rw [run_concat]
    exact ih.perform event

omit [DecidableEq ι] in
theorem lock_hear (docket : Docket ι) (ticket : Ticket ι) (reply : Lock ι × Answer) :
    (docket.hear ticket reply).lock = reply.1 := by
  rcases reply with ⟨lock, _ | _ | _⟩ <;> rfl

theorem Kept.waiter?_eq_none (hkept : Kept docket) (hticket : docket.ticket? thread = none) :
    docket.lock.waiter? thread = none := by
  have hnot : ¬ docket.lock.isWaiting thread = true := by
    rw [← hkept.ticket?_isSome_iff, hticket]
    simp
  rw [Lock.waiter?, List.find?_eq_none]
  simpa [isWaiting] using hnot

/-- Of a thread that waits, the lock knows whether it waits for ever. -/
theorem Kept.mayExpire_eq (hkept : Kept docket) {waiter : Waiter ι}
    (hwaiter : docket.lock.waiter? thread = some waiter) :
    docket.lock.mayExpire thread = waiter.limited := by
  have hthreads : (docket.lock.queue.map (·.thread)).Nodup := by
    have hdistinct := hkept.sound.distinct
    rwa [Lock.waiting, places, List.map_map] at hdistinct
  have hown : waiter.thread = thread := by simpa using List.find?_some hwaiter
  have hmem := List.mem_of_find?_eq_some hwaiter
  have honly (other : Waiter ι) (hother : other ∈ docket.lock.queue)
      (hthread : other.thread = thread) : other = waiter :=
    List.inj_on_of_nodup_map hthreads hother hmem (hthread.trans hown.symm)
  rw [Bool.eq_iff_iff, mayExpire, List.any_eq_true]
  constructor
  · rintro ⟨other, hother, hboth⟩
    obtain ⟨hthread, hlimited⟩ : other.thread = thread ∧ other.limited = true := by
      simpa using hboth
    rwa [honly other hother hthread] at hlimited
  · intro hlimited
    exact ⟨waiter, hmem, by simp [hown, hlimited]⟩

/-- The docket and the ledger see the same lock. -/
theorem Kept.lock_perform (hkept : Kept docket) {ledger : Ledger ι}
    (hlock : docket.lock = ledger.lock) (event : Event ι) :
    (docket.perform event).lock = (ledger.perform event).lock := by
  cases event with
  | ask thread permit patience =>
    have hwaits := hkept.ticket?_isSome_iff thread
    simp only [Docket.perform, Ledger.perform, ← hlock]
    by_cases hticket : (docket.ticket? thread).isSome
    · rw [if_pos hticket, if_pos (hwaits.mp hticket)]
      exact hlock
    · rw [if_neg hticket, if_neg fun hwaiting => hticket (hwaits.mpr hwaiting)]
      cases docket.lock.acquire thread permit patience with
      | error failure => exact hlock
      | ok reply =>
        rw [Ledger.lock_enter]
        by_cases hholds : docket.lock.holds thread
        · simp only [hholds, if_true]
        · simp only [hholds, Bool.false_eq_true, if_false, lock_hear]
  | give thread permit =>
    have hwaits := hkept.ticket?_isSome_iff thread
    simp only [Docket.perform, Ledger.perform, ← hlock]
    by_cases hticket : (docket.ticket? thread).isSome
    · rw [if_pos hticket, if_pos (hwaits.mp hticket)]
      exact hlock
    · rw [if_neg hticket, if_neg fun hwaiting => hticket (hwaits.mpr hwaiting)]
      cases docket.lock.release thread permit with
      | error failure => exact hlock
      | ok lock => rfl
  | look thread =>
    simp only [Docket.perform, Ledger.perform, ← hlock]
    cases hticket : docket.ticket? thread with
    | none =>
      rw [hkept.waiter?_eq_none hticket]
      exact hlock
    | some ticket =>
      obtain ⟨waiter, hwaiter, _⟩ := hkept.waiter?_of_ticket? hticket
      rw [hwaiter]
      simp only [lock_hear, Ledger.lock_enter]
  | expire thread =>
    simp only [Docket.perform, Ledger.perform, ← hlock]
    cases hticket : docket.ticket? thread with
    | none =>
      rw [hkept.waiter?_eq_none hticket]
      exact hlock
    | some ticket =>
      obtain ⟨waiter, hwaiter, _⟩ := hkept.waiter?_of_ticket? hticket
      rw [hwaiter, hkept.mayExpire_eq hwaiter]
      by_cases hlimited : waiter.limited
      · simp only [hlimited, if_true, lock_hear, Ledger.lock_enter]
      · simpa only [hlimited, Bool.false_eq_true, if_false] using hlock

theorem lock_run (events : List (Event ι)) : (run events).lock = (Ledger.run events).lock := by
  induction events using List.reverseRecOn with
  | nil => rfl
  | append_singleton events event ih =>
    rw [run_concat, Ledger.run_concat]
    exact (kept_run events).lock_perform ih event

end Docket

end AllowPolicy.Lock
