import AllowPolicy.Proofs.Engine.Traffic

namespace AllowPolicy.Engine

open Loading

variable {ω : Type}

namespace Task

/-- What is left of a thread's work comes to what the whole of it comes to: a load ends like one
    over the store as it is now, whatever its sink answers from here on, and a change leaves the
    store that it would leave at once if it were made on `origin`. -/
def Keeps (resolver : Resolver) (origin store : Store) : Task ω → Prop
  | .scanning _ scan =>
    ∀ talk, finish Sink.scripted resolver scan ((rows store).drop scan.rows) talk =
      outcome Sink.scripted resolver (rows store) talk
  | .routing _ scan rest talk =>
    ∀ later,
      settle scan ((route Sink.scripted rest).run { calls := talk.calls, answers := later }).value =
        outcome Sink.scripted resolver (rows store) { answers := talk.answers ++ later }
  | .unload result talk =>
    outcome Sink.scripted resolver (rows store) { answers := talk.answers } =
      (result, { calls := talk.calls })
  | .changing change rest => change.finish rest store = change.apply origin
  | .undoing change => change.undo store = change.apply origin
  | .leaving change => store = change.apply origin
  | _ => True

variable {resolver : Resolver} {origin store : Store}

theorem keeps_of_permit_none {task : Task ω} (hnone : task.permit? = none) :
    task.Keeps resolver origin store := by
  cases task <;> trivial

/-- A thread that has just got its permit has all its work before it. -/
theorem keeps_inside {task : Task ω} (hnone : task.permit? = none)
    (hstore : task.awaits? = some .write → store = origin) :
    task.inside.Keeps resolver origin store := by
  cases task with
  | toLoad sink => exact fun talk => rfl
  | toChange change =>
    obtain rfl := hstore rfl
    exact change.finish_steps store
  | idle => trivial
  | loaded result talk => trivial
  | scanning sink scan => cases hnone
  | routing sink scan rest talk => cases hnone
  | unload result talk => cases hnone
  | changing change rest => cases hnone
  | undoing change => cases hnone
  | leaving change => cases hnone

theorem keeps_readNext {sink : Sink ω} {scan : Scan}
    (hkeeps : (Task.scanning sink scan).Keeps resolver origin store) :
    (readNext resolver store sink scan).Keeps resolver origin store := by
  simp only [Keeps] at hkeeps
  unfold readNext
  cases hnext : (rows store)[scan.rows]? with
  | none =>
    rw [List.drop_eq_nil_of_le (List.getElem?_eq_none_iff.mp hnext)] at hkeeps
    exact fun later => hkeeps { answers := later }
  | some row =>
    obtain ⟨hlength, hrow⟩ := List.getElem?_eq_some_iff.mp hnext
    rw [List.drop_eq_getElem_cons hlength, hrow] at hkeeps
    cases hread : (readRow resolver row).value with
    | error failure =>
      have hended := hkeeps {}
      rw [finish_cons_error hread] at hended
      simp only [hread]
      exact hended.symm
    | ok rule =>
      have hrows : (scan.add rule).rows = scan.rows + 1 := by cases rule <;> rfl
      simp only [hread, Keeps, hrows]
      intro talk
      rw [← finish_cons_ok hread]
      exact hkeeps talk

theorem keeps_handNext {sink : Sink ω} {scan : Scan} {rest : List ScopedRule} {talk : Sink.Talk}
    (hkeeps : (Task.routing sink scan rest talk).Keeps resolver origin store) (world : ω) :
    (handNext sink scan talk world rest).1.Keeps resolver origin store := by
  simp only [Keeps] at hkeeps
  cases rest with
  | nil =>
    have hended := hkeeps []
    rw [List.append_nil] at hended
    exact hended.symm
  | cons entry rest =>
    simp only [route_cons, offer_scripted] at hkeeps
    simp only [handNext]
    -- Whatever the sink answers, the script could have told it to answer so.
    rcases (offer sink entry).run world with ⟨failure | ⟨⟩, after⟩
    · exact (hkeeps [.error failure]).symm
    · intro later
      have hended := hkeeps (.ok () :: later)
      rw [List.append_cons talk.answers] at hended
      exact hended

theorem keeps_runNext {change : Change} {rest : List (Store.Op Unit)}
    (hkeeps : (Task.changing change rest : Task ω).Keeps resolver origin store) :
    (runNext store change rest : Task ω × Store).1.Keeps resolver origin
      (runNext store change rest : Task ω × Store).2 := by
  simp only [Keeps] at hkeeps
  cases rest with
  | nil => exact hkeeps
  | cons step rest =>
    simp only [Change.finish] at hkeeps
    unfold runNext
    rcases hrun : step.run.run store with ⟨_ | _, after⟩
    · simp only [hrun] at hkeeps ⊢
      exact hkeeps
    · simp only [hrun] at hkeeps ⊢
      exact hkeeps

/-- A step at work takes nothing from what the work comes to. -/
theorem Keeps.work {task next : Task ω} {after : Store} {world world' : ω}
    (hkeeps : task.Keeps resolver origin store)
    (hwork : task.work? resolver store world = some (next, after, world')) :
    next.Keeps resolver origin after := by
  cases task with
  | scanning sink scan =>
    cases hwork
    exact keeps_readNext hkeeps
  | routing sink scan rest talk =>
    cases hwork
    exact keeps_handNext hkeeps world
  | changing change rest =>
    cases hwork
    exact keeps_runNext hkeeps
  | undoing change =>
    cases hwork
    exact hkeeps
  | idle => cases hwork
  | toLoad sink => cases hwork
  | unload result talk => cases hwork
  | loaded result talk => cases hwork
  | toChange change => cases hwork
  | leaving change => cases hwork

theorem permit_readNext (resolver : Resolver) (store : Store) (sink : Sink ω) (scan : Scan) :
    (readNext resolver store sink scan).permit? = some .read := by
  unfold readNext
  split
  · rfl
  · split <;> rfl

theorem permit_handNext (sink : Sink ω) (scan : Scan) (talk : Sink.Talk) (world : ω)
    (rest : List ScopedRule) : (handNext sink scan talk world rest).1.permit? = some .read := by
  cases rest with
  | nil => rfl
  | cons entry rest =>
    simp only [handNext]
    rcases (offer sink entry).run world with ⟨_ | _, after⟩ <;> rfl

theorem permit_runNext (store : Store) (change : Change) (rest : List (Store.Op Unit)) :
    (runNext store change rest : Task ω × Store).1.permit? = some .write := by
  cases rest with
  | nil => rfl
  | cons step rest =>
    simp only [runNext]
    split <;> rfl

/-- A step at work keeps the permit, and changes the store under the write permit only. -/
theorem permit_of_work {task next : Task ω} {after : Store} {world world' : ω}
    (hwork : task.work? resolver store world = some (next, after, world')) :
    ∃ permit, task.permit? = some permit ∧ next.permit? = some permit ∧
      (permit = .read → after = store) := by
  cases task with
  | scanning sink scan =>
    cases hwork
    exact ⟨.read, rfl, permit_readNext resolver store sink scan, fun _ => rfl⟩
  | routing sink scan rest talk =>
    cases hwork
    exact ⟨.read, rfl, permit_handNext sink scan talk world rest, fun _ => rfl⟩
  | changing change rest =>
    cases hwork
    exact ⟨.write, rfl, permit_runNext store change rest, fun hread => by cases hread⟩
  | undoing change =>
    cases hwork
    exact ⟨.write, rfl, rfl, fun hread => by cases hread⟩
  | idle => cases hwork
  | toLoad sink => cases hwork
  | unload result talk => cases hwork
  | loaded result talk => cases hwork
  | toChange change => cases hwork
  | leaving change => cases hwork

theorem permit_none_of_awaits {task : Task ω} {permit : Permit}
    (hawaits : task.awaits? = some permit) : task.permit? = none := by
  cases task <;> first | rfl | cases hawaits

theorem permit_inside {task : Task ω} {permit : Permit} (hawaits : task.awaits? = some permit) :
    task.inside.permit? = some permit := by
  cases task <;> cases hawaits <;> rfl

end Task

end AllowPolicy.Engine
