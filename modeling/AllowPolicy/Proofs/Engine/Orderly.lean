import AllowPolicy.Proofs.Engine.Work
import Mathlib.Tactic.ByContra

namespace AllowPolicy.Engine

variable {ι ω : Type}

namespace Traffic

variable [DecidableEq ι]

/-- A thread holds the one permit that its task calls for, waits for nothing else, and has lost
    nothing of what its task is to come to. -/
structure Fits (lock : Lock ι) (resolver : Resolver) (origin store : Store) (thread : ι)
    (task : Task ω) : Prop where
  held : ∀ permit, lock.held thread permit = if task.permit? = some permit then 1 else 0
  queued : ∀ permit, (thread, permit) ∈ lock.places → task.awaits? = some permit
  keeps : task.Keeps resolver origin store

/-- What holds of threads at an engine at all times. While nobody writes, the store is what the
    changes that are over have made of it. -/
structure Orderly (origin : Store) (traffic : Traffic ι ω) : Prop where
  sound : traffic.engine.lock.Sound
  fits : ∀ thread, Fits traffic.engine.lock traffic.engine.resolver (replay origin traffic.past)
    traffic.engine.store thread (traffic.task thread)
  calm : (∀ thread, (traffic.task thread).permit? ≠ some .write) →
    traffic.engine.store = replay origin traffic.past

variable {origin : Store} {traffic : Traffic ι ω}

/-- One thread has done something: it is enough to look at that thread, and at what the others see
    of it. -/
theorem orderly_update {thread : ι} {task : Task ω} {lock : Lock ι} {store : Store}
    {world : ω} {past : List Change} (hsound : lock.Sound)
    (hown : Fits lock traffic.engine.resolver (replay origin past) store thread task)
    (hothers : ∀ other, other ≠ thread →
      Fits lock traffic.engine.resolver (replay origin past) store other (traffic.task other))
    (hcalm : task.permit? ≠ some .write →
      (∀ other, other ≠ thread → (traffic.task other).permit? ≠ some .write) →
      store = replay origin past) :
    Orderly origin
      { engine := { traffic.engine with lock, store }
        world
        task := Function.update traffic.task thread task
        past } where
  sound := hsound
  fits := (Function.forall_update_iff traffic.task (Fits lock _ _ store)).mpr ⟨hown, hothers⟩
  calm hnone := by
    have hnobody := (Function.forall_update_iff traffic.task
      (fun _ (task : Task ω) => task.permit? ≠ some .write)).mp hnone
    exact hcalm hnobody.1 hnobody.2

theorem Orderly.writer (horderly : Orderly origin traffic) {thread : ι}
    (hwrite : (traffic.task thread).permit? = some .write) :
    traffic.engine.lock.writer = some thread := by
  have hheld := (horderly.fits thread).held .write
  rw [if_pos hwrite] at hheld
  by_contra hnot
  simp [Lock.held, Lock.writes, hnot] at hheld

/-- A thread with the write permit is the only one with a permit. -/
theorem Orderly.alone (horderly : Orderly origin traffic) {thread : ι}
    (hwrite : (traffic.task thread).permit? = some .write) {other : ι} (hother : other ≠ thread) :
    (traffic.task other).permit? = none := by
  have hwriter := horderly.writer hwrite
  cases hpermit : (traffic.task other).permit? with
  | none => rfl
  | some permit =>
    cases permit with
    | read =>
      have hheld := (horderly.fits other).held .read
      have hzero := horderly.sound.alone thread hwriter other hother
      rw [if_pos hpermit, Lock.held, hzero] at hheld
      cases hheld
    | write =>
      have hsame := (horderly.writer hpermit).symm.trans hwriter
      exact absurd (Option.some.inj hsame) hother

/-- While some thread reads, nobody writes. -/
theorem Orderly.store_of_read (horderly : Orderly origin traffic) {thread : ι}
    (hread : (traffic.task thread).permit? = some .read) :
    (∀ other, (traffic.task other).permit? ≠ some .write) ∧
      traffic.engine.store = replay origin traffic.past := by
  have hnobody : ∀ other, (traffic.task other).permit? ≠ some .write := by
    intro other hwrite
    have hne : thread ≠ other := by
      rintro rfl
      rw [hread] at hwrite
      cases hwrite
    have hidle := horderly.alone hwrite hne
    rw [hread] at hidle
    cases hidle
  exact ⟨hnobody, horderly.calm hnobody⟩

/-- A thread that is not let in holds nothing, as before. -/
theorem Orderly.stay (horderly : Orderly origin traffic) {thread : ι} {task : Task ω}
    {lock : Lock ι} (hsound : lock.Sound)
    (hholders : Lock.SameHolders lock traffic.engine.lock) (hpermit : task.permit? = none)
    (hidle : (traffic.task thread).permit? = none)
    (hown : ∀ permit, (thread, permit) ∈ lock.places → task.awaits? = some permit)
    (hothers : ∀ other, other ≠ thread → ∀ permit, (other, permit) ∈ lock.places →
      (other, permit) ∈ traffic.engine.lock.places) :
    Orderly origin { traffic with
      engine := { traffic.engine with lock }
      task := Function.update traffic.task thread task } := by
  refine orderly_update hsound ⟨fun permit => ?_, hown, Task.keeps_of_permit_none hpermit⟩
    (fun other hother => ?_) (fun _ hnobody => ?_)
  · rw [hholders.held_eq, (horderly.fits thread).held, hidle, hpermit]
  · have hfits := horderly.fits other
    refine ⟨fun permit => ?_, fun permit hplace => ?_, hfits.keeps⟩
    · rw [hholders.held_eq]
      exact hfits.held permit
    · exact hfits.queued permit (hothers other hother permit hplace)
  · refine horderly.calm fun other => ?_
    by_cases hother : other = thread
    · rw [hother, hidle]
      simp
    · exact hnobody other hother

/-- A thread that is let in has its permit, and all its work before it. -/
theorem Orderly.enter (horderly : Orderly origin traffic) {thread : ι} {task : Task ω}
    {permit : Permit} {lock : Lock ι} (hsound : lock.Sound)
    (hadmits : traffic.engine.lock.Admits thread permit)
    (hholders : Lock.SameHolders lock (traffic.engine.lock.grant thread permit))
    (hqueue : lock.places = traffic.engine.lock.places.filter (·.1 ≠ thread))
    (hawaits : task.awaits? = some permit) (hidle : (traffic.task thread).permit? = none) :
    Orderly origin { traffic with
      engine := { traffic.engine with lock }
      task := Function.update traffic.task thread task.inside } := by
  -- A writer could only be the thread itself, which holds nothing yet.
  have hcalm : traffic.engine.store = replay origin traffic.past := by
    refine horderly.calm fun other hwrite => ?_
    obtain rfl : other = thread := hadmits.writer other (horderly.writer hwrite)
    rw [hidle] at hwrite
    cases hwrite
  have hheld (other : ι) (kind : Permit) := (horderly.fits other).held kind
  refine orderly_update hsound ⟨fun kind => ?_, fun kind hplace => ?_, ?_⟩
    (fun other hother => ⟨fun kind => ?_, fun kind hplace => ?_, (horderly.fits other).keeps⟩)
    (fun _ _ => hcalm)
  · rw [hholders.held_eq, Lock.held_grant hadmits, hheld, hidle, Task.permit_inside hawaits]
    simp [eq_comm]
  · simp [hqueue] at hplace
  · exact Task.keeps_inside (Task.permit_none_of_awaits hawaits) fun _ => hcalm
  · rw [hholders.held_eq, Lock.held_grant hadmits, hheld]
    simp [hother]
  · rw [hqueue, List.mem_filter] at hplace
    exact (horderly.fits other).queued kind hplace.1

/-- Whatever a thread hears of its request, it acts on it in order. -/
theorem Orderly.receive (horderly : Orderly origin traffic) {thread : ι} {task : Task ω}
    {permit : Permit} {lock : Lock ι} {answer : Lock.Answer}
    (hreply : Lock.Reply traffic.engine.lock thread permit lock answer)
    (hawaits : task.awaits? = some permit) (hidle : (traffic.task thread).permit? = none)
    (hstays : thread ∈ traffic.engine.lock.waiting → traffic.task thread = task) :
    Orderly origin (traffic.receive thread task (lock, answer)) := by
  have hsound := horderly.sound.of_reply hreply
  have hpermit := Task.permit_none_of_awaits hawaits
  cases hreply with
  | granted hadmits hholders hqueue =>
    exact horderly.enter hsound hadmits hholders hqueue hawaits hidle
  | timedOut hholders hqueue =>
    refine horderly.stay hsound hholders hpermit hidle (fun kind hplace => ?_)
      fun other _ kind hplace => ?_
    · simp [hqueue] at hplace
    · rw [hqueue, List.mem_filter] at hplace
      exact hplace.1
  | waiting hholders _ hqueue =>
    rcases hqueue with ⟨hmem, hsame⟩ | ⟨habsent, hjoined⟩
    · refine horderly.stay hsound hholders hpermit hidle (fun kind hplace => ?_)
        fun other _ kind hplace => hsame ▸ hplace
      rw [← hstays hmem]
      exact (horderly.fits thread).queued kind (hsame ▸ hplace)
    · refine horderly.stay hsound hholders hpermit hidle (fun kind hplace => ?_)
        fun other hother kind hplace => ?_
      · rw [hjoined, List.mem_append, List.mem_singleton] at hplace
        rcases hplace with hold | hnew
        · exact absurd (List.mem_map.mpr ⟨_, hold, rfl⟩) habsent
        · cases hnew
          exact hawaits
      · rw [hjoined, List.mem_append, List.mem_singleton] at hplace
        rcases hplace with hold | hnew
        · exact hold
        · cases hnew
          exact absurd rfl hother

/-- A step at work disturbs nobody. -/
theorem Orderly.proceed (horderly : Orderly origin traffic) (thread : ι) :
    Orderly origin (traffic.proceed thread) := by
  unfold Traffic.proceed
  rcases hwork : (traffic.task thread).work? traffic.engine.resolver traffic.engine.store
    traffic.world with _ | ⟨task, store, world⟩
  · exact horderly
  obtain ⟨permit, hbefore, hafter, hread⟩ := Task.permit_of_work hwork
  have hfits := horderly.fits thread
  refine orderly_update horderly.sound ⟨fun kind => ?_, fun kind hplace => ?_, ?_⟩
    (fun other hother => ?_) fun hnot hnobody => ?_
  · rw [hfits.held, hbefore, hafter]
  · have hnone := Task.permit_none_of_awaits (hfits.queued kind hplace)
    rw [hbefore] at hnone
    cases hnone
  · exact hfits.keeps.work hwork
  · have hfrom := horderly.fits other
    refine ⟨hfrom.held, hfrom.queued, ?_⟩
    cases permit with
    | read => exact hread rfl ▸ hfrom.keeps
    | write => exact Task.keeps_of_permit_none (horderly.alone hbefore hother)
  · cases permit with
    | read => exact hread rfl ▸ (horderly.store_of_read hbefore).2
    | write => exact absurd hafter hnot

/-- A thread that gives its permit back leaves the store as the changes that are over have made
    it. -/
theorem Orderly.leave (horderly : Orderly origin traffic) {thread : ι} {permit : Permit}
    {task : Task ω} {past : List Change} (hholds : (traffic.task thread).permit? = some permit)
    (hpermit : task.permit? = none)
    (hpast : permit = .read ∧ past = traffic.past ∨
      permit = .write ∧ traffic.engine.store = replay origin past) :
    Orderly origin (traffic.leave thread permit task past) := by
  unfold Traffic.leave
  cases hrelease : traffic.engine.lock.release thread permit with
  | error failure => exact horderly
  | ok lock =>
    have hreturned := horderly.sound.returned hrelease
    have hless := Lock.held_revoke hreturned.held
    have hheld (other : ι) (kind : Permit) := (horderly.fits other).held kind
    have hstore : traffic.engine.store = replay origin past := by
      rcases hpast with ⟨rfl, rfl⟩ | ⟨_, hstore⟩
      · exact (horderly.store_of_read hholds).2
      · exact hstore
    refine orderly_update (horderly.sound.of_returned hreturned) ⟨fun kind => ?_,
      fun kind hplace => ?_, Task.keeps_of_permit_none hpermit⟩ (fun other hother => ?_)
      fun _ _ => hstore
    · have hcount := hless thread kind
      rw [hheld, hholds] at hcount
      rw [hreturned.holders.held_eq, hpermit]
      by_cases hkind : kind = permit
      · simp [hkind] at hcount ⊢
        omega
      · simp [hkind, Ne.symm hkind] at hcount ⊢
        omega
    · have hnone := Task.permit_none_of_awaits
        ((horderly.fits thread).queued kind (hreturned.queue ▸ hplace))
      rw [hholds] at hnone
      cases hnone
    · refine ⟨fun kind => ?_, fun kind hplace => ?_, ?_⟩
      · have hcount := hless other kind
        rw [hreturned.holders.held_eq, ← hheld, hcount]
        simp [hother]
      · exact (horderly.fits other).queued kind (hreturned.queue ▸ hplace)
      · rcases hpast with ⟨_, rfl⟩ | ⟨rfl, _⟩
        · exact (horderly.fits other).keeps
        · exact Task.keeps_of_permit_none (horderly.alone hholds hother)

theorem Orderly.request (horderly : Orderly origin traffic) (thread : ι) {task : Task ω}
    {permit : Permit} (hawaits : task.awaits? = some permit) :
    Orderly origin (traffic.request thread task permit) := by
  unfold Traffic.request
  by_cases hfree : (traffic.task thread).isFree
  · obtain ⟨hrests, hidle⟩ :
        (traffic.task thread).awaits? = none ∧ (traffic.task thread).permit? = none := by
      simpa [Task.isFree] using hfree
    have habsent : thread ∉ traffic.engine.lock.waiting := by
      intro hmem
      obtain ⟨⟨other, kind⟩, hplace, rfl⟩ := List.mem_map.mp hmem
      rw [(horderly.fits other).queued kind hplace] at hrests
      cases hrests
    rw [if_pos hfree]
    cases hacquire : traffic.engine.lock.acquire thread permit .unlimited with
    | error failure => exact horderly
    | ok reply =>
      exact horderly.receive (horderly.sound.reply_acquire habsent hacquire) hawaits hidle
        fun hmem => absurd hmem habsent
  · rwa [if_neg hfree]

theorem Orderly.look (horderly : Orderly origin traffic) (thread : ι) :
    Orderly origin (traffic.perform (.look thread)) := by
  simp only [perform]
  cases hwaiter : traffic.engine.lock.waiter? thread with
  | none => exact horderly
  | some waiter =>
    have hplace := Lock.mem_places_of_waiter? hwaiter
    have hawaits := (horderly.fits thread).queued _ hplace
    exact horderly.receive (horderly.sound.reply_look hwaiter) hawaits
      (Task.permit_none_of_awaits hawaits) fun _ => rfl

theorem Orderly.advance (horderly : Orderly origin traffic) (thread : ι) :
    Orderly origin (traffic.perform (.advance thread)) := by
  have hkeeps := (horderly.fits thread).keeps
  have hproceed := horderly.proceed thread
  simp only [perform]
  cases htask : traffic.task thread with
  | unload result talk =>
    exact horderly.leave (by rw [htask]; rfl) rfl (.inl ⟨rfl, rfl⟩)
  | leaving change =>
    rw [htask] at hkeeps
    refine horderly.leave (by rw [htask]; rfl) rfl (.inr ⟨rfl, ?_⟩)
    rw [replay, List.foldl_append]
    exact hkeeps
  | idle => exact hproceed
  | toLoad sink => exact hproceed
  | scanning sink scan => exact hproceed
  | routing sink scan rest talk => exact hproceed
  | loaded result talk => exact hproceed
  | toChange change => exact hproceed
  | changing change rest => exact hproceed
  | undoing change => exact hproceed

theorem Orderly.perform (horderly : Orderly origin traffic) (move : Move ι ω) :
    Orderly origin (traffic.perform move) := by
  cases move with
  | load thread sink =>
    have hawaits : (Task.toLoad sink).awaits? = some .read := rfl
    exact horderly.request thread hawaits
  | change thread change =>
    have hawaits : (Task.toChange change : Task ω).awaits? = some .write := rfl
    exact horderly.request thread hawaits
  | look thread => exact horderly.look thread
  | advance thread => exact horderly.advance thread
  | elsewhere world => exact ⟨horderly.sound, horderly.fits, horderly.calm⟩

theorem orderly_run (engine : Engine ι) (world : ω) (moves : List (Move ι ω)) :
    Orderly engine.store (run engine world moves) := by
  have hkeeps : ∀ traffic : Traffic ι ω, Orderly engine.store traffic →
      Orderly engine.store (moves.foldl Traffic.perform traffic) := by
    induction moves with
    | nil => exact fun _ horderly => horderly
    | cons move rest ih => exact fun _ horderly => ih _ (horderly.perform move)
  refine hkeeps _ ⟨Lock.sound_empty, fun thread => ⟨fun permit => ?_, ?_, trivial⟩, fun _ => rfl⟩
  · cases permit <;> simp [Lock.held, Lock.readCount, Lock.writes, Task.permit?]
  · simp [Lock.places]

/-- While some thread reads, the write permit is not given out. -/
theorem Orderly.isWriteHeld_of_read (horderly : Orderly origin traffic) {thread : ι}
    (hread : (traffic.task thread).permit? = some .read) :
    traffic.engine.lock.isWriteHeld = false := by
  by_contra hnot
  have hheld : traffic.engine.lock.isWriteHeld = true := by simpa using hnot
  obtain ⟨writer, hwriter⟩ := Option.isSome_iff_exists.mp hheld
  have hdepth := horderly.sound.depth.mpr hheld
  have hcount := (horderly.fits writer).held .write
  rw [if_neg ((horderly.store_of_read hread).1 writer), Lock.held, Lock.writes, hwriter] at hcount
  simp at hcount
  omega

end Traffic

end AllowPolicy.Engine
