import AllowPolicy.Proofs.Lock.Docket

namespace AllowPolicy.Lock.Docket

variable {ι : Type} [DecidableEq ι] {docket after : Docket ι} {ticket : Ticket ι} {thread : ι}
  {permit : Permit}

/-- A thread gets its first permit by a ticket, and no older ticket waits then. -/
theorem Step.oldest (hkept : Kept docket) (hstep : Step docket after)
    (hidle : ∀ kind, docket.lock.held thread kind = 0)
    (hgains : 0 < after.lock.held thread permit) :
    ∃ ticket : Ticket ι, ticket.thread = thread ∧ ticket.permit = permit ∧
      (ticket ∈ docket.waiting ∨ ticket.number = docket.drawn) ∧
      after.served = docket.served ++ [ticket] ∧
      ∀ other ∈ docket.waiting, ticket.number ≤ other.number := by
  have hzero := hidle permit
  cases hstep with
  | nothing => omega
  | again hholds hreply =>
    obtain ⟨rfl, rfl, _⟩ := hreply.gains hzero hgains
    obtain ⟨kind, hheld⟩ := hkept.sound.exists_held_of_holds hholds
    have hnone := hidle kind
    omega
  | back hreturned =>
    have hless := hreturned.held_le thread permit
    simp only at hgains
    omega
  | arrival _ _ hreply hfirst =>
    rw [lock_hear] at hgains
    obtain ⟨rfl, rfl, rfl⟩ := hreply.gains hzero hgains
    refine ⟨⟨docket.drawn, thread, permit⟩, rfl, rfl, .inr rfl, rfl, fun other hother => ?_⟩
    rw [hfirst rfl] at hother
    cases hother
  | @answer _ ticket _ hwaits hreply hfirst =>
    rw [lock_hear] at hgains
    obtain ⟨rfl, rfl, rfl⟩ := hreply.gains hzero hgains
    obtain ⟨rest, hrest⟩ := hfirst rfl
    refine ⟨ticket, rfl, rfl, .inl hwaits, rfl, fun other hother => ?_⟩
    rw [hrest, List.mem_cons] at hother
    cases hother with
    | inl hsame => exact Nat.le_of_eq (by rw [hsame])
    | inr hlater => exact Nat.le_of_lt (hkept.numbered.number_lt hrest hlater)

/-- A ticket that is served brings its thread the first permit. -/
theorem Step.first_permit (hkept : Kept docket) (hstep : Step docket after)
    (hserved : after.served = docket.served ++ [ticket]) :
    (∀ kind, docket.lock.held ticket.thread kind = 0) ∧
      0 < after.lock.held ticket.thread ticket.permit := by
  have hnew {other : Ticket ι} (hsame : docket.served ++ [other] = docket.served ++ [ticket]) :
      other = ticket := by simpa using hsame
  have hgrant {lock : Lock ι} {thread : ι} {permit : Permit}
      (hreply : Reply docket.lock thread permit lock .granted) : 0 < lock.held thread permit := by
    cases hreply with
    | granted hadmits hholders _ =>
      rw [hholders.held_eq, held_grant hadmits]
      simp
  cases hstep with
  | nothing => simp at hserved
  | again _ _ => simp at hserved
  | back _ => simp at hserved
  | @arrival _ _ _ answer hholds _ hreply _ =>
    cases answer with
    | granted =>
      obtain rfl := hnew hserved
      exact ⟨hkept.sound.held_eq_zero_of_not_holds hholds, hgrant hreply⟩
    | timedOut => simp [hear, Docket.draw] at hserved
    | waiting => simp [hear, Docket.draw] at hserved
  | @answer _ other answer hwaits hreply _ =>
    cases answer with
    | granted =>
      obtain rfl := hnew hserved
      exact ⟨hkept.sound.idle _ (hkept.mem_waiting hwaits), hgrant hreply⟩
    | timedOut => simp [hear] at hserved
    | waiting => simp [hear] at hserved

/-- The tickets of a docket stay with it: one that waits goes on waiting, is served or is given up,
    and new ones have greater numbers. -/
structure Grows (docket after : Docket ι) : Prop where
  drawn : docket.drawn ≤ after.drawn
  served : ∀ ticket ∈ docket.served, ticket ∈ after.served
  left : ∀ ticket ∈ docket.left, ticket ∈ after.left
  fate : ∀ ticket ∈ docket.waiting,
    ticket ∈ after.waiting ∨ ticket ∈ after.served ∨ ticket ∈ after.left
  origin : ∀ ticket ∈ after.waiting, ticket ∈ docket.waiting ∨ docket.drawn ≤ ticket.number

omit [DecidableEq ι] in
theorem Grows.refl (docket : Docket ι) : Grows docket docket :=
  ⟨Nat.le_refl _, fun _ => id, fun _ => id, fun _ => .inl, fun _ => .inl⟩

omit [DecidableEq ι] in
theorem Numbered.grows_hear (hnumbered : Numbered docket) (hwaits : ticket ∈ docket.waiting)
    (lock : Lock ι) (answer : Answer) : Grows docket (docket.hear ticket (lock, answer)) := by
  have hsplit (other : Ticket ι) (hother : other ∈ docket.waiting) :
      other ∈ docket.without ticket ∨ other = ticket := by
    by_cases hnumber : other.number = ticket.number
    · exact .inr (hnumbered.eq_of_number hother hwaits hnumber)
    · exact .inl (List.mem_filter.mpr ⟨hother, by simpa using hnumber⟩)
  have hless (other : Ticket ι) (hother : other ∈ docket.without ticket) :
      other ∈ docket.waiting := (List.mem_filter.mp hother).1
  cases answer with
  | granted =>
    refine ⟨Nat.le_refl _, fun _ => List.mem_append_left _, fun _ => id, fun other hother => ?_,
      fun other hother => .inl (hless other hother)⟩
    cases hsplit other hother with
    | inl hrest => exact .inl hrest
    | inr hsame => exact .inr (.inl (List.mem_append_right _ (List.mem_singleton.mpr hsame)))
  | timedOut =>
    refine ⟨Nat.le_refl _, fun _ => id, fun _ => List.mem_append_left _, fun other hother => ?_,
      fun other hother => .inl (hless other hother)⟩
    cases hsplit other hother with
    | inl hrest => exact .inl hrest
    | inr hsame => exact .inr (.inr (List.mem_append_right _ (List.mem_singleton.mpr hsame)))
  | waiting => exact ⟨Nat.le_refl _, fun _ => id, fun _ => id, fun _ => .inl, fun _ => .inl⟩

omit [DecidableEq ι] in
theorem grows_draw (docket : Docket ι) (thread : ι) (permit : Permit) :
    Grows docket (docket.draw thread permit) := by
  refine ⟨Nat.le_succ _, fun _ => id, fun _ => id,
    fun _ hother => .inl (List.mem_append_left _ hother),
    fun other hother => ?_⟩
  simp only [Docket.draw, List.mem_append, List.mem_singleton] at hother
  exact hother.imp_right fun hnew => by simp [hnew]

omit [DecidableEq ι] in
theorem Grows.trans {first second third : Docket ι} (hfirst : Grows first second)
    (hsecond : Grows second third) : Grows first third := by
  refine ⟨Nat.le_trans hfirst.drawn hsecond.drawn, fun ticket hticket =>
    hsecond.served _ (hfirst.served _ hticket), fun ticket hticket =>
    hsecond.left _ (hfirst.left _ hticket), fun ticket hticket => ?_, fun ticket hticket => ?_⟩
  · obtain hwaits | hserved | hleft := hfirst.fate ticket hticket
    · exact hsecond.fate ticket hwaits
    · exact .inr (.inl (hsecond.served _ hserved))
    · exact .inr (.inr (hsecond.left _ hleft))
  · cases hsecond.origin ticket hticket with
    | inl hwaits => exact hfirst.origin ticket hwaits
    | inr hnew => exact .inr (Nat.le_trans hfirst.drawn hnew)

theorem Step.grows (hkept : Kept docket) (hstep : Step docket after) : Grows docket after := by
  cases hstep with
  | nothing => exact .refl docket
  | again _ _ => exact ⟨Nat.le_refl _, fun _ => id, fun _ => id, fun _ => .inl, fun _ => .inl⟩
  | back _ => exact ⟨Nat.le_refl _, fun _ => id, fun _ => id, fun _ => .inl, fun _ => .inl⟩
  | @arrival lock thread permit answer _ _ _ _ =>
    have hnumbered := hkept.numbered.draw thread permit
    exact (grows_draw docket thread permit).trans
      (hnumbered.grows_hear (List.mem_append_right _ (List.mem_singleton.mpr rfl)) lock answer)
  | @answer lock ticket answer hwaits _ _ => exact hkept.numbered.grows_hear hwaits lock answer

theorem grows_run (events later : List (Event ι)) :
    Grows (run events) (run (events ++ later)) := by
  induction later using List.reverseRecOn with
  | nil =>
    rw [List.append_nil]
    exact .refl _
  | append_singleton later event ih =>
    have hkept := kept_run (events ++ later)
    rw [← List.append_assoc, run_concat]
    exact ih.trans ((hkept.step_perform event).grows hkept)

/-- Whoever has nothing and does not wait yet gets nothing while an older ticket waits. -/
theorem held_eq_zero_of_waits {events : List (Event ι)} (hwaits : ticket ∈ (run events).waiting)
    (hidle : ∀ kind, (run events).lock.held thread kind = 0)
    (habsent : thread ∉ (run events).lock.waiting) (later : List (Event ι))
    (hstill : ticket ∈ (run (events ++ later)).waiting) :
    (∀ kind, (run (events ++ later)).lock.held thread kind = 0) ∧
      ∀ own ∈ (run (events ++ later)).waiting, own.thread = thread →
        ticket.number < own.number := by
  have hdrawn := (kept_run events).numbered.drawn ticket (List.mem_append_right _ hwaits)
  induction later using List.reverseRecOn with
  | nil =>
    rw [List.append_nil]
    refine ⟨hidle, fun own hown hthread => ?_⟩
    exact absurd (hthread ▸ (kept_run events).mem_waiting hown) habsent
  | append_singleton later event ih =>
    have hkept := kept_run (events ++ later)
    have hgrows := grows_run events later
    rw [← List.append_assoc, run_concat] at hstill ⊢
    generalize run (events ++ later) = there at hstill ih hgrows hkept ⊢
    have hstep := hkept.step_perform event
    have hnext := hstep.grows hkept
    have hearlier : ticket.number < there.drawn := Nat.lt_of_lt_of_le hdrawn hgrows.drawn
    have hbefore : ticket ∈ there.waiting := by
      cases hnext.origin ticket hstill with
      | inl hold => exact hold
      | inr hnew => omega
    obtain ⟨hnone, hyounger⟩ := ih hbefore
    constructor
    · intro kind
      by_contra hsome
      obtain ⟨own, hown, _, hsource, _, holdest⟩ :=
        hstep.oldest hkept hnone (Nat.pos_of_ne_zero hsome)
      have hle := holdest ticket hbefore
      cases hsource with
      | inl hwaited =>
        have hlt := hyounger own hwaited hown
        omega
      | inr hnew => omega
    · intro own hown hthread
      cases hnext.origin own hown with
      | inl hold => exact hyounger own hold hthread
      | inr hnew => omega

/-- A thread that waits can be served exactly if its ticket is the oldest and its permit is free. -/
theorem Kept.isServable_iff (hkept : Kept docket) (hwaits : ticket ∈ docket.waiting) :
    docket.lock.isServable ticket.thread = true ↔
      docket.waiting.head? = some ticket ∧ docket.lock.isFree ticket.permit = true := by
  constructor
  · intro hserve
    obtain ⟨rest, hrest⟩ := hkept.first_of_isServable hwaits hserve
    obtain ⟨head, others, hqueue, _, hfree⟩ := (Lock.isServable_iff _ _).mp hserve
    have hplaces := hkept.queue
    rw [places, hqueue, hrest, List.map_cons, List.map_cons] at hplaces
    have hpermit : head.permit = ticket.permit := (Prod.mk.inj (List.cons.inj hplaces).1).2
    exact ⟨by rw [hrest, List.head?_cons], hpermit ▸ hfree⟩
  · rintro ⟨hhead, hfree⟩
    obtain ⟨rest, hrest⟩ := List.head?_eq_some_iff.mp hhead
    have hplaces := hkept.queue
    rw [hrest, List.map_cons, places] at hplaces
    obtain ⟨head, others, hqueue, hplace, _⟩ := List.map_eq_cons_iff.mp hplaces
    obtain ⟨hthread, hpermit⟩ := Prod.mk.inj hplace
    exact (Lock.isServable_iff _ _).mpr ⟨head, others, hqueue, hthread, hpermit ▸ hfree⟩

/-- So it is served when it looks. -/
theorem Kept.look_granted_iff (hkept : Kept docket) (hwaits : ticket ∈ docket.waiting) :
    (docket.lock.look ticket.thread).2 = .granted ↔
      docket.waiting.head? = some ticket ∧ docket.lock.isFree ticket.permit = true := by
  rw [← hkept.isServable_iff hwaits]
  exact ⟨isServable_of_look, fun hserve => by rw [look, if_pos hserve]⟩

end AllowPolicy.Lock.Docket
