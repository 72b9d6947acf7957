import AllowPolicy.Proofs.Engine.Work
import AllowPolicy.Proofs.Store.Overrides

namespace AllowPolicy

/-- The overrides are those of an earlier store, and none of them is unsaved. -/
structure Store.SameOverrides (before after : Store) : Prop where
  saved : after.saved.overrides = after.draft.overrides
  stored : after.overrideTable? = before.overrideTable?

theorem Store.sameOverrides_of_eq {before after : Store} (hopen : after.isOpen = before.isOpen)
    (hdraft : after.draft.overrides = before.draft.overrides)
    (hsaved : after.saved.overrides = before.draft.overrides) : SameOverrides before after := by
  refine ⟨hsaved.trans hdraft.symm, ?_⟩
  unfold overrideTable?
  rw [hopen, hdraft]

namespace Engine

variable {ι ω : Type}

namespace Task

/-- What is left of a change concerns the stored rules only. -/
def OnlyRules : Task ω → Prop
  | .changing _ rest => ∀ step ∈ rest, Store.KeepsOverrides step ∧ Store.KeepsOpen step
  | _ => True

theorem OnlyRules.inside {task : Task ω} (hrules : task.OnlyRules) : task.inside.OnlyRules := by
  cases task with
  | toChange change =>
    exact fun step hstep =>
      ⟨change.keepsOverrides_steps step hstep, change.keepsOpen_steps step hstep⟩
  | toLoad sink => trivial
  | _ => exact hrules

theorem onlyRules_of_permit {task : Task ω} (hpermit : task.permit? = some .read) :
    task.OnlyRules := by
  cases task with
  | changing change rest => cases hpermit
  | _ => trivial

theorem OnlyRules.runNext {store : Store} {change : Change} {rest : List (Store.Op Unit)}
    (hrules : (Task.changing change rest : Task ω).OnlyRules)
    (hsaved : store.saved.overrides = store.draft.overrides) :
    (runNext store change rest : Task ω × Store).1.OnlyRules ∧
      store.SameOverrides (runNext store change rest : Task ω × Store).2 := by
  cases rest with
  | nil => exact ⟨trivial, Store.sameOverrides_of_eq rfl rfl rfl⟩
  | cons step rest =>
    obtain ⟨hkeeps, hopen⟩ := hrules step List.mem_cons_self
    obtain ⟨hdraft, hfixed⟩ := hkeeps store
    have hafter : store.SameOverrides (step.run.run store).2 :=
      Store.sameOverrides_of_eq (hopen store) hdraft (hfixed ▸ hsaved)
    simp only [Task.runNext]
    rcases hrun : step.run.run store with ⟨_ | _, after⟩
    · rw [hrun] at hafter
      exact ⟨trivial, hafter⟩
    · rw [hrun] at hafter
      exact ⟨fun other hother => hrules other (List.mem_cons_of_mem step hother), hafter⟩

/-- A step at work on the stored rules leaves the overrides alone. -/
theorem OnlyRules.work {resolver : Resolver} {store after : Store} {world world' : ω}
    {task next : Task ω} (hrules : task.OnlyRules)
    (hsaved : store.saved.overrides = store.draft.overrides)
    (hwork : task.work? resolver store world = some (next, after, world')) :
    next.OnlyRules ∧ store.SameOverrides after := by
  have hsame : store.SameOverrides store := ⟨hsaved, rfl⟩
  cases task with
  | scanning sink scan =>
    cases hwork
    exact ⟨onlyRules_of_permit (permit_readNext resolver store sink scan), hsame⟩
  | routing sink scan rest talk =>
    cases hwork
    exact ⟨onlyRules_of_permit (permit_handNext sink scan talk world rest), hsame⟩
  | changing change rest =>
    cases hwork
    exact hrules.runNext hsaved
  | undoing change =>
    cases hwork
    refine ⟨trivial, ?_⟩
    unfold Change.undo
    split
    · split
      · exact Store.sameOverrides_of_eq rfl hsaved hsaved
      · exact hsame
    · exact hsame
  | _ => cases hwork

end Task

namespace Traffic

/-- What loads and changes of the stored rules leave alone. -/
structure Quiet (engine : Engine ι) (traffic : Traffic ι ω) : Prop where
  store : engine.store.SameOverrides traffic.engine.store
  inForce : traffic.engine.overrides = engine.overrides
  rules : ∀ thread, (traffic.task thread).OnlyRules

variable [DecidableEq ι] {engine : Engine ι} {traffic : Traffic ι ω}

theorem Quiet.goOn (hquiet : Quiet engine traffic) (thread : ι) {task : Task ω}
    (htask : task.OnlyRules) (lock : Lock ι) (past : List Change) :
    Quiet engine { traffic with
      engine := { traffic.engine with lock }
      task := Function.update traffic.task thread task
      past } := by
  refine ⟨hquiet.store, hquiet.inForce, ?_⟩
  exact (Function.forall_update_iff traffic.task fun _ task => task.OnlyRules).mpr
    ⟨htask, fun other _ => hquiet.rules other⟩

theorem Quiet.receive (hquiet : Quiet engine traffic) (thread : ι) {task : Task ω}
    (htask : task.OnlyRules) (reply : Lock ι × Lock.Answer) :
    Quiet engine (traffic.receive thread task reply) := by
  obtain ⟨lock, _ | _ | _⟩ := reply
  · exact hquiet.goOn thread htask.inside lock traffic.past
  · exact hquiet.goOn thread htask lock traffic.past
  · exact hquiet.goOn thread htask lock traffic.past

theorem Quiet.request (hquiet : Quiet engine traffic) (thread : ι) {task : Task ω}
    (htask : task.OnlyRules) (permit : Permit) :
    Quiet engine (traffic.request thread task permit) := by
  unfold Traffic.request
  split
  · split
    · exact hquiet.receive thread htask _
    · exact hquiet
  · exact hquiet

theorem Quiet.proceed (hquiet : Quiet engine traffic) (thread : ι) :
    Quiet engine (traffic.proceed thread) := by
  unfold Traffic.proceed
  rcases hwork : (traffic.task thread).work? traffic.engine.resolver traffic.engine.store
    traffic.world with _ | ⟨task, store, world⟩
  · exact hquiet
  obtain ⟨htask, hsaved, hstored⟩ := (hquiet.rules thread).work hquiet.store.saved hwork
  refine ⟨⟨hsaved, hstored.trans hquiet.store.stored⟩, hquiet.inForce, ?_⟩
  exact (Function.forall_update_iff traffic.task fun _ task => task.OnlyRules).mpr
    ⟨htask, fun other _ => hquiet.rules other⟩

theorem Quiet.leave (hquiet : Quiet engine traffic) (thread : ι) (permit : Permit) {task : Task ω}
    (htask : task.OnlyRules) (past : List Change) :
    Quiet engine (traffic.leave thread permit task past) := by
  unfold Traffic.leave
  split
  · exact hquiet.goOn thread htask _ past
  · exact hquiet

/-- Loads and changes of the stored rules leave the overrides alone. -/
theorem Quiet.perform (hquiet : Quiet engine traffic) (move : Move ι ω) :
    Quiet engine (traffic.perform move) := by
  cases move with
  | load thread sink =>
    have hload : (Task.toLoad sink).OnlyRules := trivial
    exact hquiet.request thread hload .read
  | change thread change =>
    have hchange : (Task.toChange change : Task ω).OnlyRules := trivial
    exact hquiet.request thread hchange .write
  | look thread =>
    simp only [Traffic.perform]
    split
    · exact hquiet.receive thread (hquiet.rules thread) _
    · exact hquiet
  | advance thread =>
    simp only [Traffic.perform]
    split
    · next result talk _ =>
      have hloaded : (Task.loaded result talk : Task ω).OnlyRules := trivial
      exact hquiet.leave thread .read hloaded traffic.past
    · next change _ =>
      have hidle : (Task.idle : Task ω).OnlyRules := trivial
      exact hquiet.leave thread .write hidle (traffic.past ++ [change])
    · exact hquiet.proceed thread
  | elsewhere world => exact ⟨hquiet.store, hquiet.inForce, hquiet.rules⟩

end Traffic

end Engine

end AllowPolicy
