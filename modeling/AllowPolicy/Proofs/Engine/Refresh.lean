import AllowPolicy.Proofs.Loading.Outcome
import AllowPolicy.Proofs.Lock.Bracket
import AllowPolicy.Proofs.Store.Contents
import AllowPolicy.Proofs.Store.Overrides

namespace AllowPolicy.Engine

variable {ι σ : Type}

/-- The stored overrides as they are put in force. -/
def inForce (stored : Overrides (Option String) Bool) : Overrides (Option String) Verdict :=
  ⟨stored.entries.map fun (name, allowed) => (name, .flag allowed)⟩

/-- What a refresh comes to that gets its permit. -/
def refreshed [Surrogates] (engine : Engine ι) : Outcome LoadReport × Engine ι :=
  match Loading.outcome Allowlist.sink engine.resolver (rows engine.store) {} with
  | (.error failure, _) => (.error failure, engine)
  | (.ok report, fresh) =>
    match (Store.overrides.run.run engine.store).1 with
    | .error failure => (.error failure, engine)
    | .ok stored =>
      (.ok report, { engine with overrides := inForce stored, allowlist := fresh })

/-- A refresh changes what is in force as a whole or not at all. -/
theorem refreshed_cases [Surrogates] (engine : Engine ι) :
    (∃ failure, refreshed engine = (.error failure, engine)) ∨
      ∃ report fresh stored,
        Loading.outcome Allowlist.sink engine.resolver (rows engine.store) {} =
          (.ok report, fresh) ∧
        (Store.overrides.run.run engine.store).1 = .ok stored ∧
        refreshed engine =
          (.ok report, { engine with overrides := inForce stored, allowlist := fresh }) := by
  unfold refreshed
  rcases Loading.outcome Allowlist.sink engine.resolver (rows engine.store) {} with
    ⟨failure | report, fresh⟩
  · exact .inl ⟨failure, rfl⟩
  · rcases (Store.overrides.run.run engine.store).1 with failure | stored
    · exact .inl ⟨failure, rfl⟩
    · exact .inr ⟨report, fresh, stored, rfl, rfl, rfl⟩

/-- It goes through exactly if every row of the store and its overrides can be read. -/
theorem isOk_refreshed_iff [Surrogates] (engine : Engine ι) :
    (refreshed engine).1.isOk = true ↔
      (∀ row ∈ rows engine.store, (Loading.readRow engine.resolver row).value.isOk = true) ∧
        (Store.overrides.run.run engine.store).1.isOk = true := by
  rw [← Loading.isOk_outcome_sink_iff _ _ {}, refreshed]
  rcases Loading.outcome Allowlist.sink engine.resolver (rows engine.store) {} with
    ⟨failure | report, fresh⟩
  · simp [Except.isOk, Except.toBool]
  · rcases (Store.overrides.run.run engine.store).1 with failure | stored
    · simp [Except.isOk, Except.toBool]
    · simp [Except.isOk, Except.toBool]

theorem lock_refreshed [Surrogates] (engine : Engine ι) :
    (refreshed engine).2.lock = engine.lock := by
  rcases refreshed_cases engine with ⟨failure, hfailed⟩ | ⟨report, fresh, stored, _, _, hdone⟩
  · rw [hfailed]
  · rw [hdone]

theorem listening_refreshed [Surrogates] (engine : Engine ι) :
    (refreshed engine).2.listening = engine.listening := by
  rcases refreshed_cases engine with ⟨failure, hfailed⟩ | ⟨report, fresh, stored, _, _, hdone⟩
  · rw [hfailed]
  · rw [hdone]

/-- A second refresh changes nothing. -/
theorem refreshed_refreshed [Surrogates] (engine : Engine ι) :
    refreshed (refreshed engine).2 = refreshed engine := by
  rcases refreshed_cases engine with
    ⟨failure, hfailed⟩ | ⟨report, fresh, stored, hload, hstored, hdone⟩
  · rw [hfailed, hfailed]
  · rw [hdone]
    simp only [refreshed, hload, hstored]

/-- Two engines that only their settings, their toggles and what they listen to tell apart. -/
structure Alike (a b : Engine ι) : Prop where
  resolver : a.resolver = b.resolver
  store : a.store = b.store
  lock : a.lock = b.lock
  overrides : a.overrides = b.overrides
  allowlist : a.allowlist = b.allowlist

theorem Alike.refreshed [Surrogates] {a b : Engine ι} (halike : Alike a b) :
    Alike (refreshed a).2 (refreshed b).2 := by
  obtain ⟨hresolver, hstore, hlock, hoverrides, hallowlist⟩ := halike
  unfold Engine.refreshed
  rw [hresolver, hstore]
  rcases Loading.outcome Allowlist.sink b.resolver (rows b.store) {} with ⟨failure | report, fresh⟩
  · exact ⟨hresolver, hstore, hlock, hoverrides, hallowlist⟩
  · rcases (Store.overrides.run.run b.store).1 with failure | stored
    · exact ⟨hresolver, hstore, hlock, hoverrides, hallowlist⟩
    · exact ⟨rfl, rfl, hlock, rfl, rfl⟩

theorem Alike.refreshed_fst [Surrogates] {a b : Engine ι} (halike : Alike a b) :
    (Engine.refreshed a).1 = (Engine.refreshed b).1 := by
  unfold Engine.refreshed
  rw [halike.resolver, halike.store]
  rcases Loading.outcome Allowlist.sink b.resolver (rows b.store) {} with ⟨failure | report, fresh⟩
  · rfl
  · rcases (Store.overrides.run.run b.store).1 with failure | stored <;> rfl

theorem run_adopt (fresh : Allowlist) (engine : Engine ι) :
    ((adopt fresh).run engine).value =
      match (Store.overrides.run.run engine.store).1 with
      | .error failure => (.error failure, engine)
      | .ok stored =>
        (.ok (), { engine with overrides := inForce stored, allowlist := fresh }) := by
  rcases engine.store.run_overrides with ⟨table, _, hread⟩ | ⟨_, failure, hread⟩
  · simp [adopt, onStore, hread, inForce]
  · simp [adopt, onStore, hread]

variable [DecidableEq ι]

/-- A load that gets its permit keeps to its sink and to the lock. -/
theorem run_load [Surrogates] {thread : ι} {sink : Sink σ} {state : σ} {engine : Engine ι}
    {held after : Lock ι}
    (hshared : (engine.lock.sharing thread fun held =>
        (Loading.run sink engine.resolver (rows engine.store) held).run state) =
      .ok (after, (Loading.run sink engine.resolver (rows engine.store) held).run state)) :
    ((load thread sink state).run engine).value =
      (Loading.outcome sink engine.resolver (rows engine.store) state,
        { engine with lock := after }) := by
  obtain ⟨count, hrun⟩ := Loading.run_run sink engine.resolver (rows engine.store) held state
  simp only [load, StateT.run_bind, StateT.run_get, Logged.value_bind, Logged.value_pure,
    Loading.load, hshared]
  simp [hrun]

theorem load_cases [Surrogates] (thread : ι) (sink : Sink σ) (state : σ) (engine : Engine ι) :
    (∃ failure, ((load thread sink state).run engine).value = ((.error failure, state), engine)) ∨
      ∃ lock, ((load thread sink state).run engine).value =
        (Loading.outcome sink engine.resolver (rows engine.store) state, { engine with lock }) := by
  rcases Lock.sharing_cases engine.lock thread fun held =>
      (Loading.run sink engine.resolver (rows engine.store) held).run state with
    ⟨failure, hstuck⟩ | ⟨held, after, hshared⟩
  · refine .inl ⟨failure, ?_⟩
    simp only [load, StateT.run_bind, StateT.run_get, Logged.value_bind, Logged.value_pure,
      Loading.load, hstuck]
    rfl
  · exact .inr ⟨after, run_load hshared⟩

/-- A load that nobody interrupts gets its permit. -/
theorem load_unused [Surrogates] (thread : ι) (sink : Sink σ) (state : σ) {engine : Engine ι}
    (hunused : engine.lock = {}) :
    ((load thread sink state).run engine).value =
      (Loading.outcome sink engine.resolver (rows engine.store) state, engine) := by
  obtain ⟨held, hshared⟩ := Lock.sharing_unused thread fun held =>
    (Loading.run sink engine.resolver (rows engine.store) held).run state
  rw [← hunused] at hshared
  exact run_load hshared

theorem run_refresh [Surrogates] {thread : ι} {engine : Engine ι} {lock : Lock ι}
    (hload : ((load thread Allowlist.sink {}).run engine).value =
      (Loading.outcome Allowlist.sink engine.resolver (rows engine.store) {},
        { engine with lock })) :
    ((refresh thread).run engine).value =
      ((refreshed engine).1, { (refreshed engine).2 with lock }) := by
  simp only [refresh, StateT.run_bind, Logged.value_bind, hload, refreshed]
  rcases Loading.outcome Allowlist.sink engine.resolver (rows engine.store) {} with
    ⟨failure | report, fresh⟩
  · rfl
  · simp only [StateT.run_bind, Logged.value_bind, run_adopt]
    rcases (Store.overrides.run.run engine.store).1 with failure | stored
    · rfl
    · rfl

theorem refresh_cases [Surrogates] (thread : ι) (engine : Engine ι) :
    (∃ failure, ((refresh thread).run engine).value = (.error failure, engine)) ∨
      ∃ lock, ((refresh thread).run engine).value =
        ((refreshed engine).1, { (refreshed engine).2 with lock }) := by
  rcases load_cases thread Allowlist.sink {} engine with ⟨failure, hload⟩ | ⟨lock, hload⟩
  · refine .inl ⟨failure, ?_⟩
    simp only [refresh, StateT.run_bind, Logged.value_bind, hload]
    rfl
  · exact .inr ⟨lock, run_refresh hload⟩

theorem refresh_unused [Surrogates] (thread : ι) {engine : Engine ι} (hunused : engine.lock = {}) :
    ((refresh thread).run engine).value = refreshed engine := by
  rw [run_refresh (load_unused thread Allowlist.sink {} hunused), ← lock_refreshed]

/-- A change of the stored rules that nobody interrupts goes through, one way or the other. -/
theorem exclusively_unused {α : Type} (thread : ι) (op : Store.Op α) {engine : Engine ι}
    (hunused : engine.lock = {}) :
    ((exclusively thread op).run engine).value =
      ((op.run.run engine.store).1, { engine with store := (op.run.run engine.store).2 }) := by
  simp only [exclusively, StateT.run_bind, StateT.run_get, Logged.value_bind, Logged.value_pure,
    hunused, Lock.excluding_unused]
  rw [← hunused]
  rfl

end AllowPolicy.Engine
