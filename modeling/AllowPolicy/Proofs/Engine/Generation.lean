import AllowPolicy.Proofs.Engine.Orderly
import AllowPolicy.Proofs.Engine.Refresh
import Mathlib.Data.List.Induction

namespace AllowPolicy.Engine

namespace Traffic

variable {ι ω : Type} [DecidableEq ι] {traffic : Traffic ι ω}

section

variable {thread other : ι} {result : Outcome LoadReport} {talk : Sink.Talk}

theorem loaded_of_update {task : Task ω}
    (hloaded : Function.update traffic.task other task thread = .loaded result talk) :
    traffic.task thread = .loaded result talk ∨
      thread = other ∧ task = .loaded result talk := by
  by_cases hthread : thread = other
  · subst hthread
    rw [Function.update_self] at hloaded
    exact .inr ⟨rfl, hloaded⟩
  · rw [Function.update_of_ne hthread] at hloaded
    exact .inl hloaded

theorem loaded_of_receive {task : Task ω} {reply : Lock ι × Lock.Answer}
    (hloaded : (traffic.receive other task reply).task thread = .loaded result talk) :
    traffic.task thread = .loaded result talk ∨
      thread = other ∧ task = .loaded result talk := by
  rcases reply with ⟨lock, _ | _ | _⟩
  · refine (loaded_of_update hloaded).imp_right fun ⟨hthread, hinside⟩ => ⟨hthread, ?_⟩
    cases task <;> first | exact hinside | cases hinside
  · exact loaded_of_update hloaded
  · exact loaded_of_update hloaded

theorem loaded_of_request {task : Task ω} {permit : Permit} (hawaits : task.awaits? = some permit)
    (hloaded : (traffic.request other task permit).task thread = .loaded result talk) :
    traffic.task thread = .loaded result talk := by
  unfold request at hloaded
  split at hloaded
  · split at hloaded
    · rcases loaded_of_receive hloaded with hbefore | ⟨_, rfl⟩
      · exact hbefore
      · cases hawaits
    · exact hloaded
  · exact hloaded

theorem loaded_of_proceed
    (hloaded : (traffic.proceed other).task thread = .loaded result talk) :
    traffic.task thread = .loaded result talk := by
  unfold proceed at hloaded
  rcases hwork : (traffic.task other).work? traffic.engine.resolver traffic.engine.store
    traffic.world with _ | ⟨task, store, world⟩
  · simpa only [hwork] using hloaded
  · obtain ⟨permit, _, hpermit, _⟩ := Task.permit_of_work hwork
    simp only [hwork] at hloaded
    rcases loaded_of_update hloaded with hbefore | ⟨_, rfl⟩
    · exact hbefore
    · cases hpermit

theorem loaded_of_leave {permit : Permit} {task : Task ω} {past : List Change}
    (hloaded : (traffic.leave other permit task past).task thread = .loaded result talk) :
    traffic.task thread = .loaded result talk ∨
      thread = other ∧ task = .loaded result talk := by
  unfold leave at hloaded
  split at hloaded
  · exact loaded_of_update hloaded
  · exact .inl hloaded

/-- A load is over only when its thread has given its permit back. -/
theorem loaded_of_perform {move : Move ι ω}
    (hloaded : (traffic.perform move).task thread = .loaded result talk) :
    traffic.task thread = .loaded result talk ∨
      move = .advance thread ∧ traffic.task thread = .unload result talk := by
  cases move with
  | load other sink =>
    have hawaits : (Task.toLoad sink).awaits? = some .read := rfl
    exact .inl (loaded_of_request hawaits hloaded)
  | change other change =>
    have hawaits : (Task.toChange change : Task ω).awaits? = some .write := rfl
    exact .inl (loaded_of_request hawaits hloaded)
  | look other =>
    simp only [perform] at hloaded
    split at hloaded
    · rcases loaded_of_receive hloaded with hbefore | ⟨rfl, hbefore⟩
      · exact .inl hbefore
      · exact .inl hbefore
    · exact .inl hloaded
  | advance other =>
    simp only [perform] at hloaded
    split at hloaded
    · next htask =>
      rcases loaded_of_leave hloaded with hbefore | ⟨rfl, hover⟩
      · exact .inl hbefore
      · cases hover
        exact .inr ⟨rfl, htask⟩
    · rcases loaded_of_leave hloaded with hbefore | ⟨_, hover⟩
      · exact .inl hbefore
      · cases hover
    · exact .inl (loaded_of_proceed hloaded)
  | elsewhere world => exact .inl hloaded

end

/-- A load that shares the engine with other loads and with changes, in whatever order they take
    their steps, comes to the report and makes the calls of a load that nobody interrupts, over the
    store as it is when the load gives its permit back. No change is under way at that time: the
    store is what the changes before it, each as a whole, have made of the first store. -/
theorem load_sees_one_generation {engine : Engine ι} {world : ω} {moves : List (Move ι ω)}
    {thread : ι} {result : Outcome LoadReport} {talk : Sink.Talk}
    (hloaded : (run engine world moves).task thread = .loaded result talk) :
    ∃ before after there, moves = before ++ .advance thread :: after ∧
      run engine world before = there ∧
      (∀ later, later <+: after →
        (run engine world (before ++ .advance thread :: later)).task thread =
          .loaded result talk) ∧
      there.engine.lock.reads thread = true ∧ there.engine.lock.isWriteHeld = false ∧
      there.engine.store = replay engine.store there.past ∧
      ((load thread Sink.scripted { answers := talk.answers }).run
          { there.engine with lock := {} }).value.1 = (result, { calls := talk.calls }) := by
  induction moves using List.reverseRecOn with
  | nil => cases hloaded
  | append_singleton moves move ih =>
    have hrun : run engine world (moves ++ [move]) = (run engine world moves).perform move := by
      simp [run, List.foldl_append]
    have hnow := hloaded
    rw [hrun] at hloaded
    -- The last move leaves an earlier load as it is, or ends this one.
    rcases loaded_of_perform hloaded with hbefore | ⟨rfl, hunload⟩
    · obtain ⟨before, after, there, rfl, hthere, hsince, hrest⟩ := ih hbefore
      refine ⟨before, after ++ [move], there, by simp, hthere, fun later hlater => ?_, hrest⟩
      rcases List.prefix_concat_iff.mp hlater with rfl | hearlier
      · simpa using hnow
      · exact hsince later hearlier
    · have horderly := orderly_run engine world moves
      have hread : ((run engine world moves).task thread).permit? = some .read := by
        rw [hunload]
        rfl
      refine ⟨moves, [], run engine world moves, rfl, rfl, fun later hlater => ?_, ?_,
        horderly.isWriteHeld_of_read hread, (horderly.store_of_read hread).2, ?_⟩
      · rw [List.prefix_nil.mp hlater]
        exact hnow
      · have hheld : (run engine world moves).engine.lock.readCount thread = 1 := by
          simpa [hread, Lock.held] using (horderly.fits thread).held .read
        rw [horderly.sound.reads_iff, hheld]
        exact Nat.one_pos
      · have hkeeps := (horderly.fits thread).keeps
        rw [hunload] at hkeeps
        rw [load_unused _ _ _ rfl]
        exact hkeeps

end Traffic

namespace Task

variable {ω : Type}

def isLoaded : Task ω → Bool
  | .loaded .. => true
  | _ => false

theorem isLoaded_iff {task : Task ω} :
    task.isLoaded = true ↔ ∃ result talk, task = .loaded result talk := by
  cases task <;> simp [isLoaded]

end Task

namespace Traffic

/-- A thread loads while another one replaces the rules. -/
def crossing : List (Move Bool Allowlist) :=
  [.load true Allowlist.sink, .advance true, .change false (.replace [.text "allow host:b.com"]),
    .advance true, .look false, .advance true, .advance true, .advance true, .look false,
    .advance false, .advance false, .advance false, .advance false, .advance false]

/-- The load sees the rules before the change. -/
theorem load_of_crossing :
    ∃ result talk, (run (onLines ["allow host:a.com"]) ⟨[], []⟩ crossing).task true =
        .loaded result talk ∧
      ∃ before after there, crossing = before ++ .advance true :: after ∧
        run (onLines ["allow host:a.com"]) ⟨[], []⟩ before = there ∧
        ((load true Sink.scripted { answers := talk.answers }).run
          { there.engine with lock := {} }).value.1 = (result, { calls := talk.calls }) := by
  have hover : ((run (onLines ["allow host:a.com"]) ⟨[], []⟩ crossing).task true).isLoaded =
      true := by decide +kernel
  obtain ⟨result, talk, hloaded⟩ := Task.isLoaded_iff.mp hover
  obtain ⟨before, after, there, hsplit, hthere, _, _, _, _, hsame⟩ :=
    load_sees_one_generation hloaded
  exact ⟨result, talk, hloaded, before, after, there, hsplit, hthere, hsame⟩

end Traffic

end AllowPolicy.Engine
