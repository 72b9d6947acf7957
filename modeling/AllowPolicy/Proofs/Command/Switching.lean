import AllowPolicy.Proofs.Command.Ending
import AllowPolicy.Proofs.Command.Exit

namespace AllowPolicy

namespace Store

/-- The number has a place in the sixty-four bits of a column. -/
def Fits (id : Int) : Prop := -Int.pow 2 63 ≤ id ∧ id < Int.pow 2 63

instance (id : Int) : Decidable (Fits id) := inferInstanceAs (Decidable (_ ∧ _))

/-- The failure for a number without such a place. It is not one of those that are reported. -/
def beyond : Failure := .overflow "Python int too large to convert to SQLite INTEGER"

theorem bindInt_eq (id : Int) : bindInt id = if Fits id then .ok id else .error beyond := rfl

variable {store : Store} {table : RuleTable}

/-- A statement about the rule of a number tells whether there is such a rule, if the number has a
    place at all. -/
theorem answer_byNumber (operation complaint : String) (change : RuleTable → Int → RuleTable)
    (hopen : store.isOpen = true) (htable : store.draft.rules = .present table) (id : Int) :
    ((write operation <| Database.onRules complaint fun table => do
        let id ← bindInt id
        pure (table.has id, change table id)).run.run store).1 =
      if Fits id then .ok (table.has id) else .error beyond := by
  rw [run_write _ _ hopen, run_onRules _ _ htable, bindInt_eq]
  by_cases hfits : Fits id
  · simp only [if_pos hfits]
    rfl
  · simp only [if_neg hfits]
    rfl

theorem answer_setEnacted (hopen : store.isOpen = true)
    (htable : store.draft.rules = .present table) (id : Int) (enacted : Bool) :
    ((setEnacted id enacted.toInt).run.run store).1 =
      if Fits id then .ok (table.has id) else .error beyond := by
  rw [setEnacted, bindInt_flag]
  exact answer_byNumber _ _ (fun table id => table.setEnacted id enacted.toInt) hopen htable id

theorem answer_deleteRule (hopen : store.isOpen = true)
    (htable : store.draft.rules = .present table) (id : Int) :
    ((deleteRule id).run.run store).1 =
      if Fits id then .ok (table.has id) else .error beyond :=
  answer_byNumber _ _ RuleTable.delete hopen htable id

/-- The fault of a store whose table of rules was made by somebody else. -/
def noRules (operation : String) : Fault :=
  .of .write { details :=
    [(.operation, operation), (.underlyingError, Database.noColumn "rule_id")] }

theorem answer_setEnacted_foreign (hopen : store.isOpen = true)
    (hforeign : store.draft.rules = .foreign) (id : Int) (enacted : Bool) :
    ((setEnacted id enacted.toInt).run.run store).1 = .error (.fault (noRules "set_enacted")) := by
  obtain ⟨saved, ⟨rules, overrides, versioned⟩, isOpen, volatile⟩ := store
  obtain rfl : isOpen = true := hopen
  obtain rfl : rules = .foreign := hforeign
  rfl

end Store

namespace Command

open Run

/-- The command ends with an exit code and a line, and not by a failure of its own. -/
structure Ending.Says (ending : Ending) (exit : Nat) (line : String) : Prop where
  exit : ending.exit = exit
  output : ending.output = [.text line]
  failure : ending.failure = none

/-- The command line is one to put the rule of a number in or out of force, in this store. -/
def Switches (args : List String) (workspace : Workspace) (id : Int) (enacted : Bool)
    (store : Store) : Prop :=
  ∃ files settings, request args = .command (.enact id enacted files) ∧
    (Command.enact id enacted files).misfiled = false ∧
    storeOf? files workspace = some (settings, store)

/-- What the command makes of the answer of its store. -/
def telling [Console] {σ : Type} (id : Int) (answer : Outcome Bool) : Run σ Unit := do
  let found ← expectOr "" answer
  if !found then refuse ("Rule not found: " ++ toString id)

theorem run_refuse [Console] {σ α : Type} {reason text : String}
    (hprint : Console.print (red reason) = .ok text) (session : Session σ) :
    (refuse reason : Run σ α).run.run session =
      (.error (.exit 1), { session with output := session.output ++ [.text text] }) := by
  simp only [refuse, run_bind, run_say, hprint]
  rfl

theorem expectOr_fault [Console] {σ α : Type} (front : String) (fault : Fault) :
    (expectOr front (.error (.fault fault)) : Run σ α) = refuse (front ++ fault.shown) := rfl

/-- The line about a store whose table of rules was made by somebody else. -/
def foreignLine : String := "[E5002] Database write failed: no such column: rule_id\n"

theorem print_foreign :
    Screen.print (red ("" ++ (Store.noRules "set_enacted").shown)) = .ok foreignLine := by
  have hshown : "" ++ (Store.noRules "set_enacted").shown =
      "[E5002] Database write failed: no such column: rule_id" := by decide +kernel
  have hprint : (Screen.print
      (red "[E5002] Database write failed: no such column: rule_id")).toOption =
      some foreignLine := by
    decide +kernel
  rw [hshown]
  generalize Screen.print (red "[E5002] Database write failed: no such column: rule_id") = printed
    at hprint ⊢
  cases printed with
  | error failure => cases hprint
  | ok text => exact congrArg Except.ok (Option.some.inj hprint)

theorem run_switching [Console] (id : Int) (enacted : Bool) (session : Session (Engine Unit))
    (hunused : session.opened.lock = {}) :
    ∃ engine, (switching id enacted).run.run session =
      (telling id ((Store.setEnacted id enacted.toInt).run.run session.opened.store).1).run.run
        { session with opened := engine } := by
  obtain ⟨engine, _, hrun⟩ := run_perform
    (uses_exclusively (Store.setEnacted id enacted.toInt)) session hunused
  refine ⟨engine, ?_⟩
  simp only [switching, telling, run_bind, Engine.setEnacted, hrun]

theorem runEnact_eq_usingStore [Console] [Yaml.Reads] (id : Int) (enacted : Bool) (files : Files) :
    runEnact id enacted files = usingStore files (switching id enacted) >>= fun _ =>
      say (green "✓" ++ " Rule " ++ toString id ++
        (if enacted then " enacted" else " disabled")) := by
  rw [runEnact_eq, usingStore, bind_assoc]

variable {args : List String} {workspace : Workspace} {id : Int} {enacted : Bool} {store : Store}

theorem Switches.isOpen (hswitches : Switches args workspace id enacted store) :
    store.isOpen = true := by
  obtain ⟨_, _, _, _, hopens⟩ := hswitches
  exact (fresh_of_storeOf? hopens).isOpen

/-- The command ends by what it makes of the answer, or goes on to its confirmation. -/
theorem Switches.ending (hswitches : Switches args workspace id enacted store)
    (accounts : List (String × Int)) (result : Except Stop Unit) (output : List Output)
    (htell : ∀ session : Session (Engine Unit),
      (telling id ((Store.setEnacted id enacted.toInt).run.run store).1).run.run session =
        (result, { session with output := session.output ++ output })) :
    ∃ after : Session Unit, after.output = output ∧
      ∃ body : Run Unit Unit, body.run.run { workspace, accounts, opened := () } = (result, after) ∧
        execute args accounts workspace =
          (body >>= fun _ => say (green "✓" ++ " Rule " ++ toString id ++
            (if enacted then " enacted" else " disabled"))).ending accounts workspace := by
  obtain ⟨files, settings, hrequest, hfiled, hopens⟩ := hswitches
  obtain ⟨toggle, hrun⟩ := run_usingStore { workspace, accounts, opened := () } hopens
    (switching id enacted)
  obtain ⟨engine, hswitch⟩ := run_switching id enacted
    { workspace, accounts, opened := engineOf settings accounts store toggle } rfl
  have hstore : (engineOf settings accounts store toggle).store = store := rfl
  rw [hstore, htell] at hswitch
  rw [hswitch] at hrun
  refine ⟨_, ?_, usingStore files (switching id enacted), hrun, ?_⟩
  · rfl
  · have hbody : (Command.enact id enacted files).run = runEnact id enacted files :=
      run_of_filed hfiled rfl
    rw [execute, hrequest]
    simp only [hbody, runEnact_eq_usingStore]

/-- The rule is there: the command goes on to its confirmation. -/
theorem Switches.says_switched (hswitches : Switches args workspace id enacted store)
    (accounts : List (String × Int))
    (hanswer : ((Store.setEnacted id enacted.toInt).run.run store).1 = .ok true) :
    (execute args accounts workspace).Says 0 (switchedLine id enacted) := by
  obtain ⟨after, houtput, body, hrun, hexecute⟩ := hswitches.ending accounts
    (.ok ()) [] fun session => by
      rw [hanswer, List.append_nil]
      rfl
  have hending : (body >>= fun _ => say (green "✓" ++ " Rule " ++ toString id ++
      (if enacted then " enacted" else " disabled"))).run.run
        { workspace, accounts, opened := () } =
      (.ok (), { after with output := [.text (switchedLine id enacted)] }) := by
    have hprint : Console.print (green "✓" ++ " Rule " ++ toString id ++
        (if enacted then " enacted" else " disabled")) = .ok (switchedLine id enacted) :=
      (Screen.print_usual _).trans (print_switched id enacted)
    simp only [run_bind, hrun, run_say, hprint, houtput, List.nil_append]
  rw [hexecute, Run.ending, hending]
  exact ⟨rfl, rfl, rfl⟩

/-- The command ends where it makes something else of the answer. -/
theorem Switches.ending_error (hswitches : Switches args workspace id enacted store)
    (accounts : List (String × Int)) (stop : Stop) (output : List Output)
    (htell : ∀ session : Session (Engine Unit),
      (telling id ((Store.setEnacted id enacted.toInt).run.run store).1).run.run session =
        (.error stop, { session with output := session.output ++ output })) :
    let ending := execute args accounts workspace
    ending.exit = Stop.code stop ∧ ending.output = output ∧
      ending.failure = match stop with | .exit _ => none | .crash failure => some failure := by
  obtain ⟨after, houtput, body, hrun, hexecute⟩ :=
    hswitches.ending accounts (.error stop) output htell
  have hending : (body >>= fun _ => say (green "✓" ++ " Rule " ++ toString id ++
      (if enacted then " enacted" else " disabled"))).run.run
        { workspace, accounts, opened := () } =
      (.error stop, after) := by
    simp only [run_bind, hrun]
  rw [hexecute, Run.ending, hending]
  cases stop with
  | exit code => exact ⟨rfl, houtput, rfl⟩
  | crash failure => exact ⟨rfl, houtput, rfl⟩

/-- The rule is not there, and the command says so. -/
theorem Switches.says_unknown (hswitches : Switches args workspace id enacted store)
    (accounts : List (String × Int))
    (hanswer : ((Store.setEnacted id enacted.toInt).run.run store).1 = .ok false) :
    (execute args accounts workspace).Says 1 (unknownLine id) := by
  obtain ⟨hexit, houtput, hfailure⟩ := hswitches.ending_error accounts
    (.exit 1) [.text (unknownLine id)] fun session => by
      rw [hanswer]
      exact run_refuse ((Screen.print_usual _).trans (print_unknown id)) session
  exact ⟨hexit, houtput, hfailure⟩

theorem Switches.says_foreign (hswitches : Switches args workspace id enacted store)
    (accounts : List (String × Int))
    (hanswer : ((Store.setEnacted id enacted.toInt).run.run store).1 =
      .error (.fault (Store.noRules "set_enacted"))) :
    (execute args accounts workspace).Says 1 foreignLine := by
  obtain ⟨hexit, houtput, hfailure⟩ := hswitches.ending_error accounts
    (.exit 1) [.text foreignLine] fun session => by
      rw [hanswer]
      simp only [telling, run_bind, expectOr_fault,
        run_refuse ((Screen.print_usual _).trans print_foreign)]
  exact ⟨hexit, houtput, hfailure⟩

/-- The command ends by a failure that it does not report, and says nothing. -/
structure Ending.Crashes (ending : Ending) (failure : Failure) : Prop where
  exit : ending.exit = 1
  output : ending.output = []
  failure : ending.failure = some failure

theorem Switches.crashes (hswitches : Switches args workspace id enacted store)
    (accounts : List (String × Int))
    (hanswer : ((Store.setEnacted id enacted.toInt).run.run store).1 = .error Store.beyond) :
    (execute args accounts workspace).Crashes Store.beyond := by
  obtain ⟨hexit, houtput, hfailure⟩ := hswitches.ending_error accounts
    (.crash Store.beyond) [] fun session => by
      rw [hanswer, List.append_nil]
      rfl
  exact ⟨hexit, houtput, hfailure⟩

/-- Whatever is stored, it is told whether there is a rule of this number. -/
structure Answered (id : Int) : Prop where
  switched : ∀ {args workspace enacted store table} accounts,
    Switches args workspace id enacted store → store.draft.rules = .present table →
    table.has id = true → (execute args accounts workspace).Says 0 (switchedLine id enacted)
  unknown : ∀ {args workspace enacted store table} accounts,
    Switches args workspace id enacted store → store.draft.rules = .present table →
    table.has id = false → (execute args accounts workspace).Says 1 (unknownLine id)
  stored : ∀ {store table}, store.isOpen = true → store.draft.rules = .present table →
    (∀ enacted : Bool,
      ((Store.setEnacted id enacted.toInt).run.run store).1 = .ok (table.has id)) ∧
    ((Store.deleteRule id).run.run store).1 = .ok (table.has id)

/-- Whatever is stored, to ask for a rule of this number fails, and nothing is said about it. -/
structure Unanswered (id : Int) : Prop where
  crashes : ∀ {args workspace enacted store table} accounts,
    Switches args workspace id enacted store → store.draft.rules = .present table →
    (execute args accounts workspace).Crashes Store.beyond
  stored : ∀ {store table}, store.isOpen = true → store.draft.rules = .present table →
    (∀ enacted : Bool,
      ((Store.setEnacted id enacted.toInt).run.run store).1 = .error Store.beyond) ∧
    ((Store.deleteRule id).run.run store).1 = .error Store.beyond

/-- A rule is found or said not to be there, by the command and by the store itself, for every
    number that has a place in a column, and for no other. A table that somebody else made is
    reported. -/
theorem answered_or_unanswered (id : Int) :
    (if Store.Fits id then Answered id else Unanswered id) ∧
      ∀ {args workspace enacted store} accounts, Switches args workspace id enacted store →
        store.draft.rules = .foreign → (execute args accounts workspace).Says 1 foreignLine := by
  refine ⟨?_, fun accounts hswitches hforeign => ?_⟩
  · split
    · rename_i hfits
      have hset {store : Store} {table : RuleTable} (hopen : store.isOpen = true)
          (htable : store.draft.rules = .present table) (enacted : Bool) :
          ((Store.setEnacted id enacted.toInt).run.run store).1 = .ok (table.has id) :=
        (Store.answer_setEnacted hopen htable id enacted).trans (if_pos hfits)
      refine ⟨fun accounts hswitches htable hhas => ?_, fun accounts hswitches htable hhas => ?_,
        fun hopen htable => ⟨hset hopen htable, ?_⟩⟩
      · refine hswitches.says_switched accounts ?_
        rw [hset hswitches.isOpen htable, hhas]
      · refine hswitches.says_unknown accounts ?_
        rw [hset hswitches.isOpen htable, hhas]
      · exact (Store.answer_deleteRule hopen htable id).trans (if_pos hfits)
    · rename_i hbeyond
      have hset {store : Store} {table : RuleTable} (hopen : store.isOpen = true)
          (htable : store.draft.rules = .present table) (enacted : Bool) :
          ((Store.setEnacted id enacted.toInt).run.run store).1 = .error Store.beyond :=
        (Store.answer_setEnacted hopen htable id enacted).trans (if_neg hbeyond)
      refine ⟨fun accounts hswitches htable => ?_, fun hopen htable => ⟨hset hopen htable, ?_⟩⟩
      · exact hswitches.crashes accounts (hset hswitches.isOpen htable _)
      · exact (Store.answer_deleteRule hopen htable id).trans (if_neg hbeyond)
  · exact hswitches.says_foreign accounts
      (Store.answer_setEnacted_foreign hswitches.isOpen hforeign id _)

/-- The first number that has no place in a column ends the command by a failure. -/
theorem exists_unanswered :
    (execute ["enact", "9223372036854775808"] [] {}).Crashes Store.beyond ∧
      ¬ Answered 9223372036854775808 := by
  have hbeyond : ¬ Store.Fits 9223372036854775808 := by decide
  have hrequest : request ["enact", "9223372036854775808"] =
      .command (.enact 9223372036854775808 true {}) := rfl
  have hopens : storeOf? {} {} = some ({}, .connect {} false) := rfl
  have hfiled : (Command.enact 9223372036854775808 true {}).misfiled = false := rfl
  have hswitches : Switches ["enact", "9223372036854775808"] {} 9223372036854775808 true
      (.connect {} false) := ⟨{}, {}, hrequest, hfiled, hopens⟩
  refine ⟨hswitches.crashes [] ?_, fun hanswered => ?_⟩
  · rw [Store.answer_setEnacted rfl rfl, if_neg hbeyond]
  · have hopen : (Store.connect {} true).isOpen = true := rfl
    have hanswer := (hanswered.stored hopen rfl).2
    rw [Store.answer_deleteRule hopen rfl, if_neg hbeyond] at hanswer
    cases hanswer

end Command

end AllowPolicy
