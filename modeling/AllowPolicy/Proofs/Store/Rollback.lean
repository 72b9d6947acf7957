import AllowPolicy.Proofs.Store.Transaction

namespace AllowPolicy.Store

/-- What can be asked of a store, or done with its file, also by another program. -/
inductive Call where
  | addRule (text : Value) (enacted : Int)
  | setEnacted (id enacted : Int)
  | deleteRule (id : Int)
  | replaceRules (texts : List Value)
  | listRules
  | enactedRules
  | setOverride (name : Option String) (allowed : Int)
  | removeOverride (name : Option String)
  | overrides
  | close
  | reopen
  | dropTable (name : String)
  | insertRow (id : Int) (text : Value) (enacted : Int) (stamp : Option Value)

/-- What a call that goes through answers. -/
inductive Answer where
  | done
  | number (id : Int)
  | found (there : Bool)
  | count (rules : Nat)
  | rules (listing : List StoredRule)
  | lines (inForce : List (Int × String))
  | decisions (table : Overrides (Option String) Bool)

section Calls

variable [Surrogates]

/-- What a call does. Another user of the file may keep its changes from being saved. -/
def Call.op (refusal : Option String) : Call → Op Answer
  | .addRule text enacted => return .number (← Store.addRule text enacted refusal)
  | .setEnacted id enacted => return .found (← Store.setEnacted id enacted refusal)
  | .deleteRule id => return .found (← Store.deleteRule id refusal)
  | .replaceRules texts => return .count (← Store.replaceRules texts refusal)
  | .listRules => return .rules (← Store.listRules)
  | .enactedRules => return .lines (← Store.enactedRules)
  | .setOverride name allowed => do
    Store.setOverride name allowed refusal
    return .done
  | .removeOverride name => return .found (← Store.removeOverride name refusal)
  | .overrides => return .decisions (← Store.overrides)
  | .close => do
    modify Store.close
    return .done
  | .reopen => do
    modify Store.reopen
    return .done
  | .dropTable name => do
    Store.dropTable name
    return .done
  | .insertRow id text enacted stamp => do
    Store.insertRow id text enacted stamp
    return .done

/-- The name that faults have for a change that is a single statement. -/
def Call.change? : Call → Option String
  | .addRule .. => some "add_rule"
  | .setEnacted .. => some "set_enacted"
  | .deleteRule .. => some "delete_rule"
  | .setOverride .. => some "set_override"
  | .removeOverride .. => some "remove_override"
  | _ => none

/-- The answer to a call, and the store after it. -/
def answer (store : Store) (call : Call) (refusal : Option String := none) : Outcome Answer :=
  ((call.op refusal).run.run store).1

def next (store : Store) (call : Call) (refusal : Option String := none) : Store :=
  ((call.op refusal).run.run store).2

/-- The answers to calls that are made one after another. -/
def answers : Store → List Call → List (Outcome Answer)
  | _, [] => []
  | store, call :: later => store.answer call :: (store.next call).answers later

/-- The store after calls. -/
def afterCalls (store : Store) (calls : List Call) : Store :=
  calls.foldl (fun store call => store.next call) store

/-- Those among calls that go through when all are made one after another. -/
def successes : Store → List Call → List Call
  | _, [] => []
  | store, call :: later =>
    if (store.answer call).isOk then call :: (store.next call).successes later
    else (store.next call).successes later

/-- A store with a change in its draft that it could not save: `before` is the store without the
    change, and `done` the store where the change is saved. -/
structure Pending (before done store : Store) : Prop where
  /-- Every call is answered as if the change had been saved. -/
  seen : ∀ call refusal, store.answer call refusal = done.answer call refusal
  /-- The next change that is saved saves this one too. -/
  saved : ∀ call, (call.change?.isSome ∨ ∃ texts, call = .replaceRules texts) →
    (done.answer call).isOk → store.next call = done.next call
  /-- The change is gone when the store is closed, or when rules cannot be replaced. -/
  lost : store.next .close = before.next .close ∧ store.next .reopen = before.next .reopen
  undone : ∀ texts refusal failure, store.answer (.replaceRules texts) refusal = .error failure →
    store.next (.replaceRules texts) refusal = before

/-- A call to the store does all that it is to do, or nothing. -/
structure Atomic (store : Store) : Prop where
  /-- Rules and overrides stay as they are, and so do the numbers that will be given next. -/
  unchanged : ∀ call failure, store.answer call = .error failure → store.next call = store
  unnoticed : ∀ calls,
    store.answers (store.successes calls) = (store.answers calls).filter (·.isOk) ∧
      store.afterCalls (store.successes calls) = store.afterCalls calls
  /-- A rule that cannot be stored keeps the old rules in their place, wherever it stands among the
      new ones. -/
  restored : ∀ early text late, Unstorable text →
    store.Refuses (replaceRules (early ++ text :: late))
  /-- The old rules stay also where all that fails is to save the new ones. -/
  kept : ∀ texts message, store.Refuses (replaceRules texts (some message))
  /-- Another change that cannot be saved is reported, and stays in the draft. -/
  pending : ∀ call operation message, call.change? = some operation →
    (∃ failure, store.answer call = .error failure ∧
        store.answer call (some message) = .error failure ∧
        store.next call (some message) = store) ∨
      (store.answer call).isOk ∧
        store.answer call (some message) =
          .error (reported .write operation (.statement message)) ∧
        Pending store (store.next call) (store.next call (some message))

theorem transacts_op (call : Call) : Transacts (call.op none) := by
  cases call with
  | addRule text enacted => exact (transacts_write _ _).bind_pure _
  | setEnacted id enacted => exact (transacts_write _ _).bind_pure _
  | deleteRule id => exact (transacts_write _ _).bind_pure _
  | replaceRules texts => exact (transacts_replaceRules texts).bind_pure _
  | listRules => exact (transacts_of_keeps run_listRules_keeps).bind_pure _
  | enactedRules => exact (transacts_of_keeps run_enactedRules_keeps).bind_pure _
  | setOverride name allowed => exact (transacts_write _ _).bind_pure _
  | removeOverride name => exact (transacts_write _ _).bind_pure _
  | overrides => exact (transacts_of_keeps run_overrides_keeps).bind_pure _
  | close => exact (transacts_modify settled_close).bind_pure _
  | reopen => exact (transacts_modify settled_reopen).bind_pure _
  | dropTable name => exact (transacts_execute_commit _).bind_pure _
  | insertRow id text enacted stamp => exact (transacts_execute_commit _).bind_pure _

/-- A change that is a single statement. -/
theorem Call.exists_write {call : Call} {operation : String}
    (hchange : call.change? = some operation) :
    ∃ (α : Type) (statement : Database.Statement α) (f : α → Answer), ∀ refusal,
      call.op refusal = do return f (← write operation statement refusal) := by
  cases call with
  | addRule text enacted =>
    cases hchange
    exact ⟨_, _, .number, fun _ => rfl⟩
  | setEnacted id enacted =>
    cases hchange
    exact ⟨_, _, .found, fun _ => rfl⟩
  | deleteRule id =>
    cases hchange
    exact ⟨_, _, .found, fun _ => rfl⟩
  | setOverride name allowed =>
    cases hchange
    exact ⟨_, _, fun _ => .done, fun _ => rfl⟩
  | removeOverride name =>
    cases hchange
    exact ⟨_, _, .found, fun _ => rfl⟩
  | replaceRules | listRules | enactedRules | overrides | close | reopen | dropTable | insertRow =>
    cases hchange

theorem Call.forgets_op (call : Call) (refusal : Option String) : Forgets (call.op refusal) := by
  cases call with
  | addRule text enacted => exact (commits_write _ _ _).forgets.bind_pure _
  | setEnacted id enacted => exact (commits_write _ _ _).forgets.bind_pure _
  | deleteRule id => exact (commits_write _ _ _).forgets.bind_pure _
  | replaceRules texts => exact (commits_replaceRules texts refusal).forgets.bind_pure _
  | listRules => exact drafts_listRules.forgets.bind_pure _
  | enactedRules => exact drafts_enactedRules.forgets.bind_pure _
  | setOverride name allowed => exact (commits_write _ _ _).forgets.bind_pure _
  | removeOverride name => exact (commits_write _ _ _).forgets.bind_pure _
  | overrides => exact drafts_overrides.forgets.bind_pure _
  | close => exact fun _ _ => rfl
  | reopen => exact fun _ _ => rfl
  | dropTable name => exact (commits_execute_commit _ none).forgets.bind_pure _
  | insertRow id text enacted stamp => exact (commits_execute_commit _ none).forgets.bind_pure _

theorem Call.commits_op {call : Call}
    (hchange : call.change?.isSome ∨ ∃ texts, call = .replaceRules texts) :
    Commits (call.op none) := by
  obtain hchange | ⟨texts, rfl⟩ := hchange
  · obtain ⟨operation, hoperation⟩ := Option.isSome_iff_exists.mp hchange
    obtain ⟨α, statement, f, hop⟩ := Call.exists_write hoperation
    rw [hop]
    exact (commits_write operation statement none).bind_pure f
  · exact (commits_replaceRules texts none).bind_pure _

theorem Settled.next_cases {store : Store} (hsettled : store.Settled) (call : Call) :
    (∃ answer, store.answer call = .ok answer ∧ (store.next call).Settled) ∨
      ∃ failure, store.answer call = .error failure ∧ store.next call = store := by
  unfold answer next
  obtain ⟨answer, after, hrun, hafter⟩ | ⟨failure, hrun⟩ := transacts_op call store hsettled
  · exact .inl ⟨answer, by rw [hrun], by rwa [hrun]⟩
  · exact .inr ⟨failure, by rw [hrun], by rw [hrun]⟩

theorem Settled.afterCalls {store : Store} (hsettled : store.Settled) (calls : List Call) :
    (store.afterCalls calls).Settled := by
  induction calls generalizing store with
  | nil => exact hsettled
  | cons call later ih =>
    obtain ⟨_, _, hnext⟩ | ⟨_, _, hsame⟩ := hsettled.next_cases call
    · exact ih hnext
    · have hnext : (store.next call).Settled := by rwa [hsame]
      exact ih hnext

/-- Calls that fail might as well not have been made. -/
theorem Settled.run_successes {store : Store} (hsettled : store.Settled) (calls : List Call) :
    store.answers (store.successes calls) = (store.answers calls).filter (·.isOk) ∧
      store.afterCalls (store.successes calls) = store.afterCalls calls := by
  induction calls generalizing store with
  | nil => exact ⟨rfl, rfl⟩
  | cons call later ih =>
    obtain ⟨answer, hanswer, hnext⟩ | ⟨failure, hanswer, hsame⟩ := hsettled.next_cases call
    · obtain ⟨hanswers, hafter⟩ := ih hnext
      have hok : (store.answer call).isOk = true := by rw [hanswer]; rfl
      rw [successes, if_pos hok, answers, answers, List.filter_cons_of_pos hok, hanswers]
      exact ⟨rfl, hafter⟩
    · have hnext : (store.next call).Settled := by rwa [hsame]
      obtain ⟨hanswers, hafter⟩ := ih hnext
      rw [hsame] at hanswers hafter
      have hfailed : ¬ (store.answer call).isOk = true := by rw [hanswer]; exact Bool.false_ne_true
      rw [successes, if_neg hfailed, answers, List.filter_cons_of_neg hfailed, hsame]
      refine ⟨hanswers, hafter.trans ?_⟩
      rw [Store.afterCalls, Store.afterCalls, List.foldl_cons, hsame]

/-- What is left of a change that went through and was not saved. -/
theorem Settled.pending {store : Store} (hsettled : store.Settled) (hopen : store.isOpen = true)
    (draft : Database) :
    Pending store { store with saved := draft, draft } { store with draft } := by
  refine
    { seen := fun call refusal =>
        call.forgets_op refusal { store with saved := draft, draft } store.saved
      saved := fun call hchange hok => ?_
      lost := ⟨rfl, rfl⟩
      undone := fun texts refusal failure hfailed => ?_ }
  · rw [next, next, ← (Call.commits_op hchange).next_eq hok store.saved]
  · rw [answer, Call.op, run_bind_pure] at hfailed
    rw [next, Call.op, run_bind_pure]
    obtain ⟨_, _, hrun⟩ | ⟨_, hrun⟩ :=
      @Store.replaceRules_cases { store with draft } _ texts refusal hopen
    · rw [hrun] at hfailed
      cases hfailed
    · rw [hrun]
      exact hsettled.rollback

/-- A single statement fails and does nothing, or goes through and cannot be saved. -/
theorem Settled.change_cases {store : Store} (hsettled : store.Settled) {call : Call}
    {operation : String} (message : String) (hchange : call.change? = some operation) :
    (∃ failure, store.answer call = .error failure ∧
        store.answer call (some message) = .error failure ∧
        store.next call (some message) = store) ∨
      (store.answer call).isOk ∧
        store.answer call (some message) =
          .error (reported .write operation (.statement message)) ∧
        Pending store (store.next call) (store.next call (some message)) := by
  obtain ⟨α, statement, f, hop⟩ := Call.exists_write hchange
  unfold answer next
  simp only [hop, run_bind_pure]
  cases hopen : store.isOpen with
  | false =>
    refine .inl ⟨reported .write operation (closedFailure "execute"), ?_⟩
    rw [run_write_closed hopen, run_write_closed hopen]
    exact ⟨rfl, rfl, rfl⟩
  | true =>
    rw [run_write operation statement hopen, run_write_refused operation statement message hopen]
    rcases statement.run store.draft with failure | ⟨answer, draft⟩
    · exact .inl ⟨_, rfl, rfl, rfl⟩
    · exact .inr ⟨rfl, rfl, hsettled.pending hopen draft⟩

end Calls

/-- The old rules are back, and the number of the rule that was added in between is free again. -/
example :
    let store := (connect {} true).afterCalls [.addRule (.text "a") 0, .addRule (.text "b") 1]
    (store.afterCalls [.replaceRules [.text "c", .null], .addRule (.text "d") 1]).draft.rules =
      .present
        { rows := [⟨1, "a", 0, none⟩, ⟨2, "b", 1, none⟩, ⟨3, "d", 1, none⟩], last := 3 } := by
  decide

end AllowPolicy.Store
