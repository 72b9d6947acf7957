import AllowPolicy.Proofs.Store.Op

namespace AllowPolicy

namespace Store

theorem run_rollback (store : Store) :
    rollback.run.run store = (.ok (), { store with draft := store.saved }) := rfl

theorem run_discard {α : Type} (op : Op α) (store : Store) :
    (discard op).run.run store =
      match op.run.run store with
      | (.ok _, after) => (.ok (), after)
      | (.error failure, after) => (.error failure, after) := by
  have hbind : (discard op : Op Unit) = op >>= fun _ => pure () := rfl
  rw [hbind, run_bind]
  rcases op.run.run store with ⟨_ | _, after⟩ <;> rfl

/-- Uses of the store in order, saved at the end. The first that fails ends them. -/
def inOrder : List (Op Unit) → Op Unit
  | [] => commit
  | op :: rest => do
    op
    inOrder rest

theorem forM_commit {α : Type} (items : List α) (op : α → Op Unit) :
    (do items.forM op; commit : Op Unit) = inOrder (items.map op) := by
  induction items with
  | nil => rfl
  | cons item rest ih =>
    rw [List.map_cons, inOrder, ← ih, List.forM_eq_forM, List.forM_cons, bind_assoc]

/-- The store stays open, or closed, whatever else it is used for. -/
def KeepsOpen {α : Type} (op : Op α) : Prop :=
  ∀ store, (op.run.run store).2.isOpen = store.isOpen

theorem keepsOpen_execute {α : Type} (statement : Database.Statement α) :
    KeepsOpen (execute statement) := by
  intro store
  cases hopen : store.isOpen with
  | false => rw [run_execute_closed statement hopen, hopen]
  | true =>
    rw [run_execute statement hopen]
    rcases statement.run store.draft with _ | ⟨answer, draft⟩ <;> exact hopen

theorem KeepsOpen.discard {α : Type} {op : Op α} (hop : KeepsOpen op) :
    KeepsOpen (discard op) := by
  intro store
  have hkeeps := hop store
  rw [run_discard]
  rcases hrun : op.run.run store with ⟨_ | _, after⟩ <;> simpa [hrun] using hkeeps

theorem keepsOpen_inOrder {ops : List (Op Unit)} (hops : ∀ op ∈ ops, KeepsOpen op) :
    KeepsOpen (inOrder ops) := by
  induction ops with
  | nil => exact fun _ => rfl
  | cons op rest ih =>
    intro store
    have hfirst := hops op List.mem_cons_self store
    rw [inOrder, run_bind]
    rcases hrun : op.run.run store with ⟨_ | _, after⟩
    · simpa [hrun] using hfirst
    · have hrest := ih (fun other hother => hops other (List.mem_cons_of_mem _ hother)) after
      rw [hrun] at hfirst
      exact hrest.trans hfirst

end Store

/-- A change of the stored rules. -/
inductive Change where
  | add (text : Value) (enacted : Int)
  | enact (id enacted : Int)
  | replace (texts : List Value)

namespace Change

/-- What a change does to the store, one use after another. -/
def steps : Change → List (Store.Op Unit)
  | .add text enacted => [discard (Store.execute (Store.insertion text enacted))]
  | .enact id enacted =>
    [discard <| Store.execute <| Database.onRules (Database.noColumn "rule_id") fun table => do
      let enacted ← Store.bindInt enacted
      let id ← Store.bindInt id
      pure (table.has id, table.setEnacted id enacted)]
  | .replace texts =>
    Store.execute Store.clearing :: Store.execute Store.insertable ::
      texts.map fun text => discard (Store.execute (Store.insertion text 1))

/-- What is done when a step of a change fails: the steps before it are taken back if there are
    any. -/
def undo : Change → Store → Store
  | .replace _, store => if store.isOpen then { store with draft := store.saved } else store
  | _, store => store

/-- The store after what is left of a change. -/
def finish (change : Change) : List (Store.Op Unit) → Store → Store
  | [], store => { store with saved := store.draft }
  | step :: rest, store =>
    match step.run.run store with
    | (.ok _, after) => change.finish rest after
    | (.error _, after) => change.undo after

/-- The store after the change as a whole. -/
def apply : Change → Store → Store
  | .add text enacted, store => ((Store.addRule text enacted).run.run store).2
  | .enact id enacted, store => ((Store.setEnacted id enacted).run.run store).2
  | .replace texts, store => ((Store.replaceRules texts).run.run store).2

theorem finish_eq (change : Change) (steps : List (Store.Op Unit)) (store : Store) :
    change.finish steps store =
      match (Store.inOrder steps).run.run store with
      | (.ok _, after) => after
      | (.error _, after) => change.undo after := by
  induction steps generalizing store with
  | nil => rfl
  | cons step rest ih =>
    simp only [finish, Store.inOrder, Store.run_bind]
    rcases step.run.run store with ⟨_ | _, after⟩
    · rfl
    · exact ih after

theorem finish_single {α : Type} {change : Change} (hundo : change.undo = id) (operation : String)
    (statement : Database.Statement α) (store : Store) :
    change.finish [discard (Store.execute statement)] store =
      ((Store.write operation statement).run.run store).2 := by
  simp only [finish, Store.run_discard, Store.write, Store.run_bind, Store.run_tryCatch,
    Store.run_throw, hundo]
  rcases (Store.execute statement).run.run store with ⟨_ | _, after⟩ <;> rfl

theorem keepsOpen_steps (change : Change) : ∀ step ∈ change.steps, Store.KeepsOpen step := by
  cases change with
  | add text enacted => simpa [steps] using (Store.keepsOpen_execute _).discard
  | enact id enacted => simpa [steps] using (Store.keepsOpen_execute _).discard
  | replace texts =>
    intro step hstep
    simp only [steps, List.mem_cons, List.mem_map] at hstep
    rcases hstep with rfl | rfl | ⟨text, _, rfl⟩
    · exact Store.keepsOpen_execute _
    · exact Store.keepsOpen_execute _
    · exact (Store.keepsOpen_execute _).discard

/-- A replacement goes through its steps. Where one fails, it goes back to what is saved. -/
theorem run_replaceRules_steps (texts : List Value) {store : Store}
    (hopen : store.isOpen = true) :
    (Store.replaceRules texts).run.run store =
      match (Store.inOrder (replace texts).steps).run.run store with
      | (.ok _, after) => (.ok texts.length, after)
      | (.error failure, after) =>
        (.error (Store.reported .write "replace_rules" failure),
          { after with draft := after.saved }) := by
  have hwork : (do
      Store.execute Store.clearing
      Store.execute Store.insertable
      Store.inOrder (texts.map fun text => discard (Store.execute (Store.insertion text 1))) :
      Store.Op Unit) = Store.inOrder (replace texts).steps := rfl
  simp only [Store.replaceRules, Store.forM_commit, Store.run_bind, Store.run_get, hopen,
    Bool.not_true, Bool.false_eq_true, if_false, hwork, Store.run_tryCatch, Store.run_pure,
    Store.run_rollback, Store.run_throw]
  rcases (Store.inOrder (replace texts).steps).run.run store with ⟨failure | _, after⟩ <;> rfl

theorem finish_replace (texts : List Value) (store : Store) :
    (replace texts).finish (replace texts).steps store =
      ((Store.replaceRules texts).run.run store).2 := by
  have hopen := Store.keepsOpen_inOrder (replace texts).keepsOpen_steps store
  rw [finish_eq]
  cases hstore : store.isOpen with
  | false =>
    simp only [Store.replaceRules, steps, Store.inOrder, Store.run_bind, Store.run_get,
      Store.run_execute_closed _ hstore, undo, hstore]
    rfl
  | true =>
    rw [run_replaceRules_steps texts hstore]
    rcases hrun : (Store.inOrder (replace texts).steps).run.run store with ⟨failure | _, after⟩
    · have hafter : after.isOpen = true := by simpa [hrun, hstore] using hopen
      simp only [undo, hafter, if_true]
    · rfl

/-- The steps of a change make up the whole change. -/
theorem finish_steps (change : Change) (store : Store) :
    change.finish change.steps store = change.apply store := by
  cases change with
  | add text enacted => exact finish_single rfl _ _ store
  | enact id enacted => exact finish_single rfl _ _ store
  | replace texts => exact finish_replace texts store

end Change

end AllowPolicy
