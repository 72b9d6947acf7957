import AllowPolicy.Proofs.Engine.Callers
import AllowPolicy.Proofs.Engine.Generation

namespace AllowPolicy

/-- The allowlist once it has heard a call. -/
def Allowlist.hear (allowlist : Allowlist) : Sink.Call → Allowlist
  | .global rule => allowlist.addGlobal rule
  | .app uid rule => { allowlist with apps := extend uid rule allowlist.apps }

theorem Allowlist.place_eq_hear (allowlist : Allowlist) (entry : ScopedRule) :
    allowlist.place entry = allowlist.hear entry.call := by
  unfold place ScopedRule.call
  by_cases hglobal : entry.isGlobal <;> simp [hglobal, hear]

namespace Loading

theorem offer_own {ι : Type} [DecidableEq ι] (thread : ι) (entry : ScopedRule)
    (world : ι → Allowlist) :
    (offer (Allowlist.sink.own thread) entry).run world =
      (.ok (), Function.update world thread ((world thread).hear entry.call)) := by
  have hoffer := Allowlist.offer_sink entry (world thread)
  rw [Allowlist.place_eq_hear] at hoffer
  unfold offer at hoffer ⊢
  by_cases hglobal : entry.isGlobal
  · rw [if_pos hglobal] at hoffer ⊢
    simp only [Sink.own, StateT.run] at hoffer ⊢
    rw [hoffer]
  · rw [if_neg hglobal] at hoffer ⊢
    simp only [Sink.own, StateT.run] at hoffer ⊢
    rw [hoffer]

theorem calls_of_route {entries : List ScopedRule} {talk after : Sink.Talk}
    (hroute : ((route Sink.scripted entries).run talk).value = (.ok (), after)) :
    after.calls = talk.calls ++ entries.map ScopedRule.call := by
  induction entries generalizing talk with
  | nil =>
    cases hroute
    exact (List.append_nil _).symm
  | cons entry rest ih =>
    rw [route_cons, offer_scripted] at hroute
    cases hanswer : talk.answers.headD (.ok ()) with
    | error failure =>
      rw [hanswer] at hroute
      cases hroute
    | ok _ =>
      rw [hanswer] at hroute
      rw [ih hroute, List.map_cons, List.append_assoc, List.singleton_append]

/-- An allowlist that has heard the calls of a load holds the rules of that load. -/
theorem outcome_sink_of_scripted {resolver : Resolver} {rows : Rows} {talk after : Sink.Talk}
    {report : LoadReport} (hfresh : talk.calls = [])
    (hload : outcome Sink.scripted resolver rows talk = (.ok report, after)) :
    outcome Allowlist.sink resolver rows {} =
      (.ok report, after.calls.foldl Allowlist.hear {}) := by
  obtain ⟨rules, hread⟩ | ⟨row, hrow, hunread⟩ := allRead_or_unread resolver rows
  · rw [outcome_of_allRead hread] at hload
    rcases hroute : ((route Sink.scripted rules.reduceOption).run talk).value with ⟨_ | ⟨⟩, other⟩
    · rw [hroute] at hload
      cases hload
    · rw [hroute] at hload
      cases hload
      have hplace : Allowlist.place = fun allowlist entry => allowlist.hear entry.call := by
        funext allowlist entry
        exact allowlist.place_eq_hear entry
      rw [outcome_sink_of_allRead hread, calls_of_route hroute, hfresh, List.nil_append,
        List.foldl_map, hplace]
  · obtain ⟨failure, hfailed⟩ := outcome_of_unread hrow hunread Sink.scripted talk
    rw [hfailed] at hload
    cases hload

end Loading

namespace Engine

open Loading

variable {ι : Type}

namespace Task

/-- The thread loads into its own allowlist, which has heard all calls so far. -/
def Own [DecidableEq ι] (thread : ι) (fresh : Allowlist) : Task (ι → Allowlist) → Prop
  | .toLoad sink => sink = Allowlist.sink.own thread ∧ fresh = {}
  | .scanning sink _ => sink = Allowlist.sink.own thread ∧ fresh = {}
  | .routing sink _ _ talk =>
    sink = Allowlist.sink.own thread ∧ fresh = talk.calls.foldl Allowlist.hear {}
  | .unload _ talk => fresh = talk.calls.foldl Allowlist.hear {}
  | _ => False

/-- The thread does not load. -/
def Rests : Task (ι → Allowlist) → Prop
  | .toLoad _ | .scanning .. | .routing .. | .unload .. => False
  | _ => True

variable {resolver : Resolver} {store after : Store} {thread : ι}
  {world world' : ι → Allowlist} {task next : Task (ι → Allowlist)}

theorem Own.inside [DecidableEq ι] (hown : task.Own thread (world thread)) :
    task.inside.Own thread (world thread) := by
  cases task with
  | toLoad sink => exact hown
  | toChange change => exact hown
  | _ => exact hown

theorem Rests.inside (hrests : task.Rests) : task.inside.Rests := by
  cases task with
  | toLoad sink => exact hrests
  | toChange change => trivial
  | _ => exact hrests

/-- A load adds to the allowlist of its own thread only. -/
theorem Own.work [DecidableEq ι] (hown : task.Own thread (world thread))
    (hwork : task.work? resolver store world = some (next, after, world')) :
    next.Own thread (world' thread) ∧ ∀ other, other ≠ thread → world' other = world other := by
  cases task with
  | scanning sink scan =>
    cases hwork
    obtain ⟨rfl, hfresh⟩ := hown
    refine ⟨?_, fun _ _ => rfl⟩
    unfold readNext
    split
    · exact ⟨rfl, hfresh⟩
    · split
      · exact ⟨rfl, hfresh⟩
      · exact hfresh
  | routing sink scan rest talk =>
    obtain ⟨rfl, hfresh⟩ := hown
    cases rest with
    | nil =>
      cases hwork
      exact ⟨hfresh, fun _ _ => rfl⟩
    | cons entry rest =>
      simp only [work?, handNext, offer_own, Option.some.injEq, Prod.mk.injEq] at hwork
      obtain ⟨rfl, rfl, rfl⟩ := hwork
      refine ⟨⟨rfl, ?_⟩, fun other hother => Function.update_of_ne hother _ _⟩
      rw [Function.update_self, List.foldl_append, ← hfresh]
      rfl
  | unload result talk => cases hwork
  | idle => exact hown.elim
  | toLoad sink => cases hwork
  | loaded result talk => exact hown.elim
  | toChange change => exact hown.elim
  | changing change rest => exact hown.elim
  | undoing change => exact hown.elim
  | leaving change => exact hown.elim

theorem Rests.work (hrests : task.Rests)
    (hwork : task.work? resolver store world = some (next, after, world')) :
    next.Rests ∧ world' = world := by
  cases task with
  | changing change rest =>
    cases hwork
    refine ⟨?_, rfl⟩
    cases rest with
    | nil => trivial
    | cons step rest =>
      simp only
      rcases step.run.run store with ⟨_ | _, after⟩ <;> trivial
  | undoing change =>
    cases hwork
    exact ⟨trivial, rfl⟩
  | idle => cases hwork
  | loaded result talk => cases hwork
  | toChange change => cases hwork
  | leaving change => cases hwork
  | _ => exact hrests.elim

end Task

namespace Traffic

variable [DecidableEq ι] {traffic : Traffic ι (ι → Allowlist)}

/-- A thread that goes on changes its own task: it works, or gives its permit back. -/
theorem advance_cases (traffic : Traffic ι (ι → Allowlist)) (thread : ι) :
    traffic.perform (.advance thread) = traffic ∨
      ∃ task, (traffic.perform (.advance thread)).task = Function.update traffic.task thread task ∧
        ((∃ store, (traffic.task thread).work? traffic.engine.resolver traffic.engine.store
            traffic.world = some (task, store, (traffic.perform (.advance thread)).world)) ∨
          (traffic.perform (.advance thread)).world = traffic.world ∧
            ((∃ result talk, traffic.task thread = .unload result talk ∧
              task = .loaded result talk) ∨
            ∃ change, traffic.task thread = .leaving change ∧ task = .idle)) := by
  have hleave (permit : Permit) (task : Task (ι → Allowlist)) (past : List Change) :
      traffic.leave thread permit task past = traffic ∨
        (traffic.leave thread permit task past).task = Function.update traffic.task thread task ∧
          (traffic.leave thread permit task past).world = traffic.world := by
    unfold leave
    split
    · exact .inr ⟨rfl, rfl⟩
    · exact .inl rfl
  simp only [perform]
  split
  · next result talk htask =>
    rcases hleave .read (.loaded result talk) traffic.past with hsame | ⟨hupdate, hworld⟩
    · exact .inl hsame
    · exact .inr ⟨_, hupdate, .inr ⟨hworld, .inl ⟨result, talk, htask, rfl⟩⟩⟩
  · next change htask =>
    rcases hleave .write .idle (traffic.past ++ [change]) with hsame | ⟨hupdate, hworld⟩
    · exact .inl hsame
    · exact .inr ⟨_, hupdate, .inr ⟨hworld, .inr ⟨change, htask, rfl⟩⟩⟩
  · unfold proceed
    rcases hwork : (traffic.task thread).work? traffic.engine.resolver traffic.engine.store
      traffic.world with _ | ⟨task, store, world⟩
    · exact .inl rfl
    · exact .inr ⟨task, rfl, .inl ⟨store, rfl⟩⟩

/-- What a thread is at, as far as loads go. -/
def Minds (traffic : Traffic ι (ι → Allowlist)) (thread : ι) : (loads : Bool) → Prop
  | true => (traffic.task thread).Own thread (traffic.world thread)
  | false => (traffic.task thread).Rests

theorem minds_congr {traffic' : Traffic ι (ι → Allowlist)} {thread : ι} {loads : Bool}
    (hminds : traffic.Minds thread loads) (htask : traffic'.task thread = traffic.task thread)
    (hworld : traffic'.world thread = traffic.world thread) : traffic'.Minds thread loads := by
  cases loads with
  | true =>
    unfold Minds
    rw [htask, hworld]
    exact hminds
  | false =>
    unfold Minds
    rw [htask]
    exact hminds

theorem Minds.receive {thread : ι} {task : Task (ι → Allowlist)} (reply : Lock ι × Lock.Answer)
    {loads : Bool} (hminds : { traffic with
      task := Function.update traffic.task thread task }.Minds thread loads) :
    (traffic.receive thread task reply).Minds thread loads := by
  have hinside : { traffic with
      task := Function.update traffic.task thread task.inside }.Minds thread loads := by
    cases loads with
    | true =>
      simp only [Minds, Function.update_self] at hminds ⊢
      exact hminds.inside
    | false =>
      simp only [Minds, Function.update_self] at hminds ⊢
      exact hminds.inside
  obtain ⟨lock, _ | _ | _⟩ := reply
  · exact minds_congr hinside rfl rfl
  · exact minds_congr hminds rfl rfl
  · exact minds_congr hminds rfl rfl

theorem receive_of_ne (thread : ι) (task : Task (ι → Allowlist)) (reply : Lock ι × Lock.Answer)
    {other : ι} (hother : other ≠ thread) :
    (traffic.receive thread task reply).task other = traffic.task other := by
  obtain ⟨lock, _ | _ | _⟩ := reply <;> exact Function.update_of_ne hother _ _

theorem world_receive (thread : ι) (task : Task (ι → Allowlist)) (reply : Lock ι × Lock.Answer) :
    (traffic.receive thread task reply).world = traffic.world := by
  obtain ⟨lock, _ | _ | _⟩ := reply <;> rfl

theorem Minds.look {thread : ι} {loads : Bool} (hminds : traffic.Minds thread loads) (other : ι) :
    (traffic.perform (.look other)).Minds thread loads := by
  simp only [perform]
  split
  · by_cases hother : thread = other
    · subst hother
      refine Minds.receive _ (minds_congr hminds ?_ rfl)
      exact Function.update_self ..
    · exact minds_congr hminds (receive_of_ne _ _ _ hother)
        (congrFun (world_receive _ _ _) thread)
  · exact hminds

/-- A thread that goes on disturbs no other. -/
theorem Minds.advance_of_ne {thread other : ι} {loads loads' : Bool}
    (hminds : traffic.Minds thread loads) (hother : thread ≠ other)
    (hactor : traffic.Minds other loads') :
    (traffic.perform (.advance other)).Minds thread loads := by
  rcases traffic.advance_cases other with hsame | ⟨task, htask, hwork⟩
  · rwa [hsame]
  · refine minds_congr hminds (by rw [htask, Function.update_of_ne hother]) ?_
    rcases hwork with ⟨store, hwork⟩ | ⟨hworld, _⟩
    · cases loads' with
      | true => exact (Task.Own.work hactor hwork).2 thread hother
      | false => rw [(Task.Rests.work hactor hwork).2]
    · rw [hworld]

theorem Minds.advance_rests {thread : ι} (hminds : traffic.Minds thread false) :
    (traffic.perform (.advance thread)).Minds thread false := by
  rcases traffic.advance_cases thread with hsame | ⟨task, htask, hwork⟩
  · rwa [hsame]
  · unfold Minds
    rw [htask, Function.update_self]
    rcases hwork with ⟨store, hwork⟩ | ⟨_, ⟨result, talk, _, rfl⟩ | ⟨change, _, rfl⟩⟩
    · exact (Task.Rests.work hminds hwork).1
    · trivial
    · trivial

/-- A load goes on, or is over. -/
theorem Minds.advance_own {thread : ι} (hminds : traffic.Minds thread true) :
    (traffic.perform (.advance thread)).Minds thread true ∨
      ∃ result talk, traffic.task thread = .unload result talk ∧
        (traffic.perform (.advance thread)).task thread = .loaded result talk ∧
        (traffic.perform (.advance thread)).world = traffic.world := by
  rcases traffic.advance_cases thread with hsame | ⟨task, htask, hwork⟩
  · left
    rwa [hsame]
  · rcases hwork with
      ⟨store, hwork⟩ | ⟨hworld, ⟨result, talk, hunload, rfl⟩ | ⟨change, hleave, rfl⟩⟩
    · left
      unfold Minds
      rw [htask, Function.update_self]
      exact (Task.Own.work hminds hwork).1
    · exact .inr ⟨result, talk, hunload, by rw [htask, Function.update_self], hworld⟩
    · unfold Minds at hminds
      rw [hleave] at hminds
      exact hminds.elim

theorem request_cases (traffic : Traffic ι (ι → Allowlist)) (thread : ι)
    (task : Task (ι → Allowlist)) (permit : Permit) :
    traffic.request thread task permit = traffic ∨
      ∃ reply, traffic.request thread task permit = traffic.receive thread task reply := by
  unfold request
  split
  · split
    · exact .inr ⟨_, rfl⟩
    · exact .inl rfl
  · exact .inl rfl

theorem Minds.request {thread other : ι} {task : Task (ι → Allowlist)} {permit : Permit}
    {loads : Bool} (hminds : traffic.Minds thread loads)
    (hown : thread = other → loads = false ∧ task.Rests) :
    (traffic.request other task permit).Minds thread loads := by
  rcases traffic.request_cases other task permit with hsame | ⟨reply, hreply⟩
  · rwa [hsame]
  · rw [hreply]
    by_cases hother : thread = other
    · obtain ⟨rfl, hrests⟩ := hown hother
      subst hother
      refine Minds.receive reply ?_
      simp only [Minds, Function.update_self]
      exact hrests
    · exact minds_congr hminds (receive_of_ne _ _ _ hother)
        (congrFun (world_receive _ _ _) thread)

theorem minds_refresh {thread : ι} (hfree : (traffic.task thread).isFree = true) :
    (traffic.refresh thread).Minds thread true := by
  have hrequest : traffic.refresh thread =
      { traffic with world := Function.update traffic.world thread {} }.receive thread
        (.toLoad (Allowlist.sink.own thread))
        (traffic.engine.lock.acquireRead thread .unlimited) := by
    simp only [refresh, perform, Traffic.request, hfree, if_true, Lock.acquire]
  rw [hrequest]
  refine Minds.receive _ ?_
  simp only [Minds, Function.update_self]
  exact ⟨rfl, rfl⟩

theorem Minds.refresh_of_ne {thread other : ι} {loads : Bool} (hminds : traffic.Minds thread loads)
    (hother : thread ≠ other) : (traffic.refresh other).Minds thread loads := by
  refine Minds.request ?_ fun heq => absurd heq hother
  exact minds_congr hminds rfl (Function.update_of_ne hother _ _)

end Traffic

end Engine

end AllowPolicy
