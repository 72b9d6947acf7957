import AllowPolicy.Engine

namespace AllowPolicy.Store

/-- Nothing waits to be saved. -/
def Settled (store : Store) : Prop := store.draft = store.saved

/-- Where nothing waits to be saved, nothing is lost by going back to what is saved. -/
theorem Settled.rollback {store : Store} (hsettled : store.Settled) :
    { store with draft := store.saved } = store := by
  obtain ⟨saved, draft, isOpen, volatile⟩ := store
  obtain rfl : draft = saved := hsettled
  rfl

variable {α β : Type}

theorem run_bind (op : Op α) (next : α → Op β) (store : Store) :
    (op >>= next).run.run store =
      match op.run.run store with
      | (.ok answer, after) => (next answer).run.run after
      | (.error failure, after) => (.error failure, after) := by
  simp only [ExceptT.run_bind, StateT.run_bind]
  rcases op.run.run store with ⟨_ | _, after⟩ <;> rfl

theorem run_pure (answer : α) (store : Store) :
    (pure answer : Op α).run.run store = (.ok answer, store) := rfl

theorem run_bind_pure (op : Op α) (f : α → β) (store : Store) :
    (do return f (← op) : Op β).run.run store =
      ((op.run.run store).1.map f, (op.run.run store).2) := by
  rw [run_bind]
  rcases op.run.run store with ⟨_ | _, after⟩ <;> rfl

theorem run_throw (failure : Failure) (store : Store) :
    (throw failure : Op α).run.run store = (.error failure, store) := rfl

theorem run_get (store : Store) : (get : Op Store).run.run store = (.ok store, store) := rfl

theorem run_tryCatch (op : Op α) (rescue : Failure → Op α) (store : Store) :
    (tryCatch op rescue).run.run store =
      match op.run.run store with
      | (.ok answer, after) => (.ok answer, after)
      | (.error failure, after) => (rescue failure).run.run after := by
  rw [ExceptT.run_tryCatch, StateT.run_bind]
  rcases op.run.run store with ⟨_ | _, after⟩ <;> rfl

/-- A statement works on the draft, and leaves the store alone if it is refused. -/
theorem run_execute (statement : Database.Statement α) {store : Store}
    (hopen : store.isOpen = true) :
    (execute statement).run.run store =
      match statement.run store.draft with
      | .ok (answer, draft) => (.ok answer, { store with draft })
      | .error failure => (.error failure, store) := by
  simp only [execute, run_bind, run_get, hopen]
  rcases statement.run store.draft with _ | ⟨answer, draft⟩ <;> rfl

theorem run_execute_closed (statement : Database.Statement α) {store : Store}
    (hclosed : store.isOpen = false) :
    (execute statement).run.run store = (.error (closedFailure "execute"), store) := by
  simp only [execute, run_bind, run_get, hclosed]
  rfl

theorem run_onRules (complaint : String) (work : RuleTable → Outcome (α × RuleTable))
    {db : Database} {table : RuleTable} (htable : db.rules = .present table) :
    (Database.onRules complaint work).run db =
      match work table with
      | .ok (answer, after) => .ok (answer, { db with rules := .present after })
      | .error failure => .error failure := by
  simp only [Database.onRules, StateT.run_bind, StateT.run_get, StateT.run_monadLift,
    StateT.run_modify, StateT.run_pure, htable, Table.content, pure_bind, bind_assoc]
  change (work table).bind _ = _
  rcases work table with failure | result <;> rfl

/-- Asking leaves the store as it is, if the statement itself changes nothing. -/
theorem run_read (operation : String) {statement : Database.Statement α} {store : Store}
    (hasks : ∀ answer draft,
      statement.run store.draft = .ok (answer, draft) → draft = store.draft) :
    (∃ answer, store.isOpen = true ∧ statement.run store.draft = .ok (answer, store.draft) ∧
        (read operation statement).run.run store = (.ok answer, store)) ∨
      ∃ failure, (read operation statement).run.run store = (.error failure, store) := by
  simp only [read, run_tryCatch, run_throw]
  cases hopen : store.isOpen with
  | false => exact .inr ⟨_, by rw [run_execute_closed statement hopen]⟩
  | true =>
    rw [run_execute statement hopen]
    cases hrun : statement.run store.draft with
    | error failure => exact .inr ⟨_, rfl⟩
    | ok result =>
      obtain ⟨answer, draft⟩ := result
      obtain rfl := hasks answer draft hrun
      exact .inl ⟨answer, rfl, rfl, rfl⟩

end AllowPolicy.Store
