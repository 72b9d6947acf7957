import AllowPolicy.Proofs.Store.Fresh

namespace AllowPolicy.Store

variable {α β : Type} {store : Store}

/-- The store refuses a use, and stays as it is. -/
def Refuses (store : Store) (op : Op α) : Prop :=
  ∃ failure, op.run.run store = (.error failure, store)

theorem Refuses.bind {op : Op α} (hrefuses : store.Refuses op) (next : α → Op β) :
    store.Refuses (op >>= next) := by
  obtain ⟨failure, hrun⟩ := hrefuses
  exact ⟨failure, by rw [run_bind, hrun]⟩

theorem Refuses.keeps {op : Op α} (hrefuses : store.Refuses op) :
    (op.run.run store).2 = store := by
  obtain ⟨failure, hrun⟩ := hrefuses
  rw [hrun]

theorem refuses_read (hclosed : store.isOpen = false) (operation : String)
    (statement : Database.Statement α) : store.Refuses (read operation statement) := by
  refine ⟨reported .read operation (closedFailure "execute"), ?_⟩
  simp only [read, run_tryCatch, run_execute_closed statement hclosed, run_throw]

theorem run_write_closed (hclosed : store.isOpen = false) (operation : String)
    (statement : Database.Statement α) (refusal : Option String) :
    (write operation statement refusal).run.run store =
      (.error (reported .write operation (closedFailure "execute")), store) := by
  simp only [write, run_tryCatch, run_bind, run_execute_closed statement hclosed, run_throw]

theorem refuses_write (hclosed : store.isOpen = false) (operation : String)
    (statement : Database.Statement α) (refusal : Option String) :
    store.Refuses (write operation statement refusal) :=
  ⟨_, run_write_closed hclosed operation statement refusal⟩

/-- The use works on the draft: it does not look at what is saved, and leaves it as it is. -/
def Drafts (op : Op α) : Prop :=
  ∀ store : Store, ∃ answer draft, ∀ saved,
    op.run.run { store with saved } = (answer, { store with saved, draft })

/-- What a use of the draft comes to does not depend on what is saved. -/
theorem Drafts.run {op : Op α} (hop : Drafts op) (store : Store) :
    ∃ draft, ∀ saved, op.run.run { store with saved } =
      ((op.run.run store).1, { store with saved, draft }) := by
  obtain ⟨answer, draft, hrun⟩ := hop store
  refine ⟨draft, fun saved => ?_⟩
  rw [hrun, show (op.run.run store).1 = answer from congrArg Prod.fst (hrun store.saved)]

theorem drafts_pure (answer : α) : Drafts (pure answer : Op α) :=
  fun store => ⟨_, store.draft, fun _ => rfl⟩

theorem drafts_throw (failure : Failure) : Drafts (throw failure : Op α) :=
  fun store => ⟨_, store.draft, fun _ => rfl⟩

theorem drafts_execute (statement : Database.Statement α) : Drafts (execute statement) := by
  intro store
  by_cases hopen : store.isOpen = true
  · have hrun (saved : Database) := @run_execute _ statement { store with saved } hopen
    cases hstatement : statement.run store.draft with
    | error failure =>
      exact ⟨.error failure, store.draft, fun saved => by simp only [hrun, hstatement]⟩
    | ok result => exact ⟨.ok result.1, result.2, fun saved => by simp only [hrun, hstatement]⟩
  · exact ⟨_, store.draft, fun _ => run_execute_closed statement (Bool.eq_false_iff.mpr hopen)⟩

theorem Drafts.bind {op : Op α} {next : α → Op β} (hop : Drafts op)
    (hnext : ∀ answer, Drafts (next answer)) : Drafts (op >>= next) := by
  intro store
  obtain ⟨failure | answer, draft, hrun⟩ := hop store
  · exact ⟨.error failure, draft, fun saved => by rw [run_bind, hrun]⟩
  · obtain ⟨later, left, hlater⟩ := hnext answer { store with draft }
    exact ⟨later, left, fun saved => by rw [run_bind, hrun]; exact hlater saved⟩

theorem Drafts.tryCatch {op : Op α} {rescue : Failure → Op α} (hop : Drafts op)
    (hrescue : ∀ failure, Drafts (rescue failure)) : Drafts (tryCatch op rescue) := by
  intro store
  obtain ⟨failure | answer, draft, hrun⟩ := hop store
  · obtain ⟨later, left, hlater⟩ := hrescue failure { store with draft }
    exact ⟨later, left, fun saved => by rw [run_tryCatch, hrun]; exact hlater saved⟩
  · exact ⟨.ok answer, draft, fun saved => by rw [run_tryCatch, hrun]⟩

theorem Drafts.discard {op : Op α} (hop : Drafts op) : Drafts (discard op) :=
  hop.bind fun _ => drafts_pure ()

theorem drafts_forM {items : List β} {op : β → Op Unit} (hop : ∀ item, Drafts (op item)) :
    Drafts (items.forM op) := by
  induction items with
  | nil => exact drafts_pure ()
  | cons item rest ih => exact (hop item).bind fun _ => ih

theorem drafts_mapM {items : List β} {op : β → Op α} (hop : ∀ item, Drafts (op item)) :
    Drafts (items.mapM op) := by
  induction items with
  | nil => exact drafts_pure []
  | cons item rest ih =>
    rw [List.mapM_cons]
    exact (hop item).bind fun _ => ih.bind fun _ => drafts_pure _

theorem drafts_read (operation : String) (statement : Database.Statement α) :
    Drafts (read operation statement) :=
  (drafts_execute statement).tryCatch fun _ => drafts_throw _

theorem drafts_listRules : Drafts listRules := by
  refine (drafts_read _ _).bind fun _ => drafts_mapM fun row => ?_
  cases storedRule row with
  | error failure => exact drafts_throw failure
  | ok rule => exact drafts_pure rule

theorem drafts_enactedRules : Drafts enactedRules :=
  (drafts_read _ _).bind fun _ => drafts_pure _

theorem drafts_overrides : Drafts overrides :=
  (drafts_read _ _).bind fun _ => drafts_pure _

/-- The use fails on every store. -/
def Fails (op : Op α) : Prop := ∀ store, ∃ failure after, op.run.run store = (.error failure, after)

theorem Fails.bind {op : Op α} (hop : Fails op) (next : α → Op β) : Fails (op >>= next) := by
  intro store
  obtain ⟨failure, after, hrun⟩ := hop store
  exact ⟨failure, after, by rw [run_bind, hrun]⟩

/-- What comes before a use that fails does not help. -/
theorem Fails.after {next : α → Op β} (hnext : ∀ answer, Fails (next answer)) (op : Op α) :
    Fails (op >>= next) := by
  intro store
  rw [run_bind]
  rcases op.run.run store with ⟨failure | answer, after⟩
  · exact ⟨failure, after, rfl⟩
  · exact hnext answer after

theorem fails_execute {statement : Database.Statement α}
    (hstatement : ∀ db, ∃ failure, statement.run db = .error failure) :
    Fails (execute statement) := by
  intro store
  cases hopen : store.isOpen with
  | false => exact ⟨_, store, run_execute_closed statement hopen⟩
  | true =>
    obtain ⟨failure, hrun⟩ := hstatement store.draft
    exact ⟨failure, store, by rw [run_execute statement hopen, hrun]⟩

theorem fails_forM {items : List β} {op : β → Op Unit} {item : β} (hmem : item ∈ items)
    (hop : Fails (op item)) : Fails (items.forM op) := by
  induction items with
  | nil => cases hmem
  | cons first rest ih =>
    rw [List.forM_eq_forM, List.forM_cons]
    obtain rfl | hlater := List.mem_cons.mp hmem
    · exact hop.bind _
    · exact Fails.after (fun _ => ih hlater) _

/-- A row without a text is refused. -/
theorem exists_add_none (table : RuleTable) (enacted : Int) :
    ∃ failure, table.add none enacted = .error failure := by
  unfold RuleTable.add
  rcases table.nextId with failure | id
  · exact ⟨failure, rfl⟩
  · exact ⟨_, rfl⟩

section Replace

variable [Surrogates]

/-- The statements of a replacement of rules. -/
def replacing (texts : List Value) : Op Unit := do
  execute clearing
  execute insertable
  texts.forM fun text => discard (execute (insertion text 1))

theorem drafts_replacing (texts : List Value) : Drafts (replacing texts) :=
  (drafts_execute _).bind fun _ => (drafts_execute _).bind fun _ =>
    drafts_forM fun _ => (drafts_execute _).discard

/-- A replacement is saved as a whole. Where a statement fails, or the saving, it goes back to what
    is saved. -/
theorem run_replaceRules_replacing (texts : List Value) (refusal : Option String)
    (hopen : store.isOpen = true) :
    (replaceRules texts refusal).run.run store =
      match (replacing texts).run.run store, refusal with
      | (.ok _, after), none => (.ok texts.length, { after with saved := after.draft })
      | (.ok _, after), some message =>
        (.error (reported .write "replace_rules" (.statement message)),
          { after with draft := after.saved })
      | (.error failure, after), _ =>
        (.error (reported .write "replace_rules" failure),
          { after with draft := after.saved }) := by
  have hwork : (do
      execute clearing
      execute insertable
      texts.forM fun text => discard (execute (insertion text 1))
      commit refusal : Op Unit) = (replacing texts >>= fun _ => commit refusal) := by
    simp only [replacing, bind_assoc]
  simp only [replaceRules, hwork, run_bind, run_get, hopen, Bool.not_true, Bool.false_eq_true,
    if_false, run_tryCatch, run_pure, run_rollback, run_throw]
  rcases (replacing texts).run.run store with ⟨failure | _, after⟩
  · rfl
  · cases refusal <;> rfl

theorem run_replaceRules_closed (hclosed : store.isOpen = false) (texts : List Value)
    (refusal : Option String) :
    (replaceRules texts refusal).run.run store = (.error (closedFailure "rollback"), store) := by
  simp only [replaceRules, run_bind, run_get, hclosed]
  rfl

theorem refuses_replaceRules (hclosed : store.isOpen = false) (texts : List Value)
    (refusal : Option String) : store.Refuses (replaceRules texts refusal) :=
  ⟨_, run_replaceRules_closed hclosed texts refusal⟩

/-- A replacement of rules in an open store either saves all that it does, or brings back what is
    saved. -/
theorem replaceRules_cases (texts : List Value) (refusal : Option String)
    (hopen : store.isOpen = true) :
    (refusal = none ∧ ∃ draft, ∀ saved, (replaceRules texts refusal).run.run { store with saved } =
        (.ok texts.length, { store with saved := draft, draft })) ∨
      ∃ failure, ∀ saved, (replaceRules texts refusal).run.run { store with saved } =
        (.error failure, { store with saved, draft := saved }) := by
  obtain ⟨answer, draft, hrun⟩ := drafts_replacing texts store
  have hreplace (saved : Database) :
      (replaceRules texts refusal).run.run { store with saved } = _ :=
    run_replaceRules_replacing texts refusal hopen
  simp only [hrun] at hreplace
  rcases answer with failure | _
  · exact .inr ⟨_, hreplace⟩
  · cases refusal with
    | none => exact .inl ⟨rfl, draft, hreplace⟩
    | some message => exact .inr ⟨_, hreplace⟩

/-- Where nothing waits to be saved, the replacement is saved, or it leaves the store as it is. -/
theorem Settled.replaceRules_cases (hsettled : store.Settled) (texts : List Value)
    (refusal : Option String) (hopen : store.isOpen = true) :
    (refusal = none ∧ ∃ draft, (replaceRules texts refusal).run.run store =
        (.ok texts.length, { store with saved := draft, draft })) ∨
      store.Refuses (replaceRules texts refusal) := by
  obtain ⟨hsaves, draft, hrun⟩ | ⟨failure, hrun⟩ := Store.replaceRules_cases texts refusal hopen
  · exact .inl ⟨hsaves, draft, hrun store.saved⟩
  · refine .inr ⟨failure, (hrun store.saved).trans ?_⟩
    rw [hsettled.rollback]

/-- A replacement that cannot go through leaves such a store as it is. -/
theorem Settled.refuses_replaceRules (hsettled : store.Settled) {texts : List Value}
    {refusal : Option String} (hfails : refusal ≠ none ∨ Fails (replacing texts)) :
    store.Refuses (replaceRules texts refusal) := by
  cases hopen : store.isOpen with
  | false => exact Store.refuses_replaceRules hopen texts refusal
  | true =>
    obtain ⟨hsaves, draft, hrun⟩ | hrefuses := hsettled.replaceRules_cases texts refusal hopen
    · obtain hrefused | hfails := hfails
      · exact absurd hsaves hrefused
      · obtain ⟨failure, after, hreplacing⟩ := hfails store
        rw [run_replaceRules_replacing texts refusal hopen, hreplacing] at hrun
        cases hrun
    · exact hrefuses

/-- What a rule line cannot be: nothing, an integer beyond sixty-four bits, what is not a number, a
    text in which surrogates stand alone, or a collection. -/
inductive Unstorable : Value → Prop
  | null : Unstorable .null
  | int {n : Int} (hwide : n < -Int.pow 2 63 ∨ Int.pow 2 63 ≤ n) : Unstorable (.int n)
  | real {x : Float} (hnan : Decimal.significant? x = none) : Unstorable (.real x)
  | lone {s : String} (hlone : Text.isWhole s = false) : Unstorable (.text s)
  | list {items : List Value} : Unstorable (.list items)
  | table {entries : List (Value × Value)} : Unstorable (.table entries)

/-- The database finds no text in it, or refuses it. -/
theorem Unstorable.bindText_ne {text : Value} (htext : Unstorable text) (s : String) :
    bindText 1 text ≠ .ok (some s) := by
  intro hbind
  cases htext with
  | null => cases hbind
  | @int n hwide =>
    have hrefused : bindInt n =
        .error (.overflow "Python int too large to convert to SQLite INTEGER") :=
      if_neg (by omega)
    rw [bindText, hrefused] at hbind
    cases hbind
  | real hnan =>
    rw [bindText, hnan] at hbind
    cases hbind
  | lone hlone =>
    rw [bindText, bindString_of_not_isWhole hlone] at hbind
    cases hbind
  | list => cases hbind
  | table => cases hbind

theorem Unstorable.fails {text : Value} (htext : Unstorable text) (enacted : Int) :
    Fails (execute (insertion text enacted)) := by
  refine fails_execute fun db => ?_
  cases hrun : (insertion text enacted).run db with
  | error failure => exact ⟨failure, rfl⟩
  | ok result =>
    obtain ⟨table, left, _, hwork, _⟩ := exists_of_onRules hrun
    rcases hbind : bindText 1 text with failure | _ | s
    · rw [hbind] at hwork
      cases hwork
    · rw [hbind] at hwork
      rcases hflag : bindInt enacted with failure | flag
      · rw [hflag] at hwork
        cases hwork
      · obtain ⟨failure, hadd⟩ := exists_add_none table flag
        simp only [hflag, bind, Except.bind, hadd] at hwork
        cases hwork
    · exact absurd hbind (htext.bindText_ne s)

/-- Rules are not replaced where one of the new ones cannot be stored, at whatever place
    it stands. -/
theorem Unstorable.refuses_replaceRules {text : Value} (htext : Unstorable text)
    {texts : List Value} (hmem : text ∈ texts) (hsettled : store.Settled) :
    store.Refuses (replaceRules texts) := by
  have hinsertions : Fails (texts.forM fun text => discard (execute (insertion text 1))) :=
    fails_forM hmem ((htext.fails 1).bind _)
  exact hsettled.refuses_replaceRules
    (.inr (Fails.after (fun _ => Fails.after (fun _ => hinsertions) _) _))

end Replace

/-- Where nothing waits to be saved, the use saves all that it does, or fails and does nothing. -/
def Transacts (op : Op α) : Prop :=
  ∀ store, store.Settled →
    (∃ answer after, op.run.run store = (.ok answer, after) ∧ after.Settled) ∨ store.Refuses op

theorem Transacts.bind_pure {op : Op α} (hop : Transacts op) (f : α → β) :
    Transacts (do return f (← op)) := by
  intro store hsettled
  obtain ⟨answer, after, hrun, hafter⟩ | hrefuses := hop store hsettled
  · exact .inl ⟨f answer, after, by rw [run_bind_pure, hrun]; rfl, hafter⟩
  · exact .inr (hrefuses.bind _)

theorem settled_close (store : Store) : store.close.Settled := rfl

theorem settled_reopen (store : Store) : store.reopen.Settled := rfl

theorem transacts_modify {change : Store → Store} (hchange : ∀ store, (change store).Settled) :
    Transacts (modify change) :=
  fun store _ => .inl ⟨(), change store, rfl, hchange store⟩

/-- A use that leaves every store alone. -/
theorem transacts_of_keeps {op : Op α} (hkeeps : ∀ store, (op.run.run store).2 = store) :
    Transacts op := by
  intro store hsettled
  have hsame := hkeeps store
  rcases hrun : op.run.run store with ⟨failure | answer, after⟩
  · rw [hrun] at hsame
    obtain rfl : after = store := hsame
    exact .inr ⟨failure, hrun⟩
  · rw [hrun] at hsame
    obtain rfl : after = store := hsame
    exact .inl ⟨answer, after, rfl, hsettled⟩

theorem run_enactedRules_keeps (store : Store) : (enactedRules.run.run store).2 = store := by
  obtain ⟨table, _, hrun⟩ | ⟨failure, hrun⟩ := run_enactedRules store
  · rw [hrun]
  · rw [hrun]

/-- A single statement that is saved at once. -/
theorem transacts_execute_commit (statement : Database.Statement α) :
    Transacts (do let answer ← execute statement; commit; return answer) := by
  intro store hsettled
  cases hopen : store.isOpen with
  | false => exact .inr (Refuses.bind ⟨_, run_execute_closed statement hopen⟩ _)
  | true =>
    have hrun := run_execute statement hopen
    cases hstatement : statement.run store.draft with
    | error failure =>
      rw [hstatement] at hrun
      exact .inr (Refuses.bind ⟨failure, hrun⟩ _)
    | ok result =>
      rw [hstatement] at hrun
      refine .inl ⟨result.1, { store with saved := result.2, draft := result.2 }, ?_, rfl⟩
      rw [run_bind, hrun]
      rfl

theorem transacts_write (operation : String) (statement : Database.Statement α) :
    Transacts (write operation statement) := by
  intro store hsettled
  cases hopen : store.isOpen with
  | false => exact .inr (refuses_write hopen operation statement none)
  | true =>
    obtain ⟨answer, draft, _, hrun⟩ | ⟨failure, hrun⟩ := write_cases operation statement hopen
    · exact .inl ⟨answer, _, hrun, rfl⟩
    · exact .inr ⟨failure, hrun⟩

theorem transacts_replaceRules [Surrogates] (texts : List Value) :
    Transacts (replaceRules texts) := by
  intro store hsettled
  cases hopen : store.isOpen with
  | false => exact .inr (refuses_replaceRules hopen texts none)
  | true =>
    obtain ⟨_, draft, hrun⟩ | hrefuses := hsettled.replaceRules_cases texts none hopen
    · exact .inl ⟨texts.length, _, hrun, rfl⟩
    · exact .inr hrefuses

/-- What is saved has no part in the answer of the use. -/
def Forgets (op : Op α) : Prop :=
  ∀ (store : Store) (saved : Database),
    (op.run.run { store with saved }).1 = (op.run.run store).1

theorem Forgets.bind_pure {op : Op α} (hop : Forgets op) (f : α → β) :
    Forgets (do return f (← op)) := by
  intro store saved
  rw [run_bind_pure, run_bind_pure, hop]

theorem Drafts.forgets {op : Op α} (hop : Drafts op) : Forgets op := by
  intro store saved
  obtain ⟨draft, hrun⟩ := hop.run store
  rw [hrun]

/-- Whatever was saved before, the use goes through and saves the draft, or fails. -/
def Commits (op : Op α) : Prop :=
  ∀ store : Store,
    (∃ answer draft, ∀ saved, op.run.run { store with saved } =
        (.ok answer, { store with saved := draft, draft })) ∨
      ∃ failure, ∀ saved, (op.run.run { store with saved }).1 = .error failure

theorem Commits.bind_pure {op : Op α} (hop : Commits op) (f : α → β) :
    Commits (do return f (← op)) := by
  intro store
  obtain ⟨answer, draft, hrun⟩ | ⟨failure, hrun⟩ := hop store
  · exact .inl ⟨f answer, draft, fun saved => by rw [run_bind_pure, hrun]; rfl⟩
  · exact .inr ⟨failure, fun saved => by rw [run_bind_pure, hrun]; rfl⟩

theorem Commits.forgets {op : Op α} (hop : Commits op) : Forgets op := by
  intro store saved
  obtain ⟨answer, draft, hrun⟩ | ⟨failure, hrun⟩ := hop store
  · rw [hrun saved, show op.run.run store = _ from hrun store.saved]
  · rw [hrun saved, show (op.run.run store).1 = _ from hrun store.saved]

/-- Where the use goes through, the store is the same whatever was saved before. -/
theorem Commits.next_eq {op : Op α} (hop : Commits op) {store : Store}
    (hok : (op.run.run store).1.isOk) (saved : Database) :
    (op.run.run { store with saved }).2 = (op.run.run store).2 := by
  obtain ⟨answer, draft, hrun⟩ | ⟨failure, hrun⟩ := hop store
  · rw [hrun saved, show op.run.run store = _ from hrun store.saved]
  · rw [show (op.run.run store).1 = _ from hrun store.saved] at hok
    cases hok

/-- Another name for the failure changes nothing else. -/
theorem Commits.report {op : Op α} (hop : Commits op) (name : Failure → Failure) :
    Commits (tryCatch op fun failure => throw (name failure)) := by
  intro store
  obtain ⟨answer, draft, hrun⟩ | ⟨failure, hrun⟩ := hop store
  · exact .inl ⟨answer, draft, fun saved => by rw [run_tryCatch, hrun]⟩
  · refine .inr ⟨name failure, fun saved => ?_⟩
    have hfailed := hrun saved
    rw [run_tryCatch]
    rcases hresult : op.run.run { store with saved } with ⟨_ | _, after⟩ <;>
      rw [hresult] at hfailed <;> cases hfailed
    rfl

theorem commits_execute_commit (statement : Database.Statement α) (refusal : Option String) :
    Commits (do let answer ← execute statement; commit refusal; return answer) := by
  intro store
  obtain ⟨failure | answer, draft, hrun⟩ := drafts_execute statement store
  · exact .inr ⟨failure, fun saved => by rw [run_bind, hrun]⟩
  · cases refusal with
    | none => exact .inl ⟨answer, draft, fun saved => by rw [run_bind, hrun]; rfl⟩
    | some message =>
      exact .inr ⟨.statement message, fun saved => by rw [run_bind, hrun]; rfl⟩

theorem commits_write (operation : String) (statement : Database.Statement α)
    (refusal : Option String) : Commits (write operation statement refusal) :=
  (commits_execute_commit statement refusal).report (reported .write operation)

theorem commits_replaceRules [Surrogates] (texts : List Value) (refusal : Option String) :
    Commits (replaceRules texts refusal) := by
  intro store
  by_cases hopen : store.isOpen = true
  · obtain ⟨_, draft, hrun⟩ | ⟨failure, hrun⟩ := replaceRules_cases texts refusal hopen
    · exact .inl ⟨texts.length, draft, hrun⟩
    · exact .inr ⟨failure, fun saved => congrArg Prod.fst (hrun saved)⟩
  · have hrun (saved : Database) := @run_replaceRules_closed { store with saved } _
      (Bool.eq_false_iff.mpr hopen) texts refusal
    exact .inr ⟨_, fun saved => congrArg Prod.fst (hrun saved)⟩

end AllowPolicy.Store
