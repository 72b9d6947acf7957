import AllowPolicy.Proofs.Command.Load

namespace AllowPolicy.Command

open Run

/-- A command without a file of settings works with the usual resolver, whatever its database. -/
theorem resolver_of_target? [Surrogates] [Yaml.Reads] {accounts : List (String × Int)}
    {workspace : Workspace} {place : Place} {files : Files} {command : Command}
    {work : Resolver → Store → Store} {settings : Settings}
    (huse : use? command = some (files, work)) (hconfig : files.config = none)
    (htarget : command.target? workspace = some (settings, place)) :
    settings.resolver accounts = ({} : Settings).resolver accounts := by
  obtain ⟨_, _, ⟨_, huse'⟩, hread, _⟩ := target?_eq_some_iff.mp htarget
  rw [huse] at huse'
  cases huse'
  obtain ⟨config, database⟩ := files
  obtain rfl : config = none := hconfig
  cases database <;> cases hread <;> rfl

/-- What a parse tells of a line with a rule. -/
def shownParse [Surrogates] (line : String) (entry : ScopedRule) : Json :=
  .record [("ruletext", .string line),
    ("rule", .record [("scope", .int entry.scope), ("rule", shownRule entry.rule)]),
    ("error", .null)]

theorem json?_shownParse [Surrogates] (line : String) (entry : ScopedRule) :
    (Value.record [("ruletext", .text line), ("rule", entry.toValue), ("error", .null)]).json? =
      some (shownParse line entry) := by
  have hrule : entry.toValue.json? =
      some (.record [("scope", .int entry.scope), ("rule", shownRule entry.rule)]) :=
    Value.json?_record_cons rfl <| Value.json?_record_cons (json?_toValue entry.rule)
      Value.json?_record_nil
  exact Value.json?_record_cons rfl <| Value.json?_record_cons hrule <|
    Value.json?_record_cons rfl Value.json?_record_nil

section Check

variable [Surrogates] [Console] {accounts : List (String × Int)} {resolver : Resolver}
  {workspace : Workspace} {place : Place} {files : Files} {line : String} {enacted : Bool}
  {table : RuleTable}

theorem run_storing (session : Session (Engine Unit)) (hunused : session.opened.lock = {})
    (hfresh : session.opened.store.Fresh)
    (htable : session.opened.store.draft.rules = .present table)
    (hroom : (table.last : Int) < RuleTable.greatest) (hwhole : Text.isWhole line = true)
    (hconfirms : ∀ id, Displays (storedMarks id)) :
    ((storing line enacted).run.run session).1 = .ok () := by
  obtain ⟨engine, _, hrun⟩ := run_perform_ok (uses_exclusively _) session hunused
    (hfresh.run_addRule htable hroom hwhole enacted)
  obtain ⟨_, output, hsay⟩ := (hconfirms (table.last + 1)).passes { session with opened := engine }
  rw [storedMarks] at hsay
  simp only [storing, Engine.addRule, run_bind, hrun]
  rw [hsay]

/-- A line that cannot be encoded is not stored. -/
theorem run_storing_lone (enacted : Bool) (session : Session (Engine Unit))
    (hunused : session.opened.lock = {}) (hfresh : session.opened.store.Fresh)
    (hlone : Text.isWhole line = false) :
    ∃ stop, ((storing line enacted).run.run session).1 = .error stop := by
  obtain ⟨_, _, _, hwhole, _⟩ | ⟨failure, hrefused⟩ := hfresh.addRule_cases line enacted
  · rw [hlone] at hwhole
    cases hwhole
  · obtain ⟨stop, output, engine, _, hrun⟩ :=
      run_perform_error (uses_exclusively _) session hunused hrefused
    refine ⟨stop, ?_⟩
    simp only [storing, Engine.addRule, run_bind, hrun]

variable [Yaml.Reads]

/-- A command that checks and adds a line comes to what this comes to in the store of its place. -/
theorem fst_run_add
    (hreaches : Reaches accounts (.add line enacted true files) workspace resolver place) :
    ∃ session : Session (Engine Unit), session.opened.resolver = resolver ∧
      session.opened.lock = {} ∧
      session.opened.store = .connect (workspace.stored place) false ∧
      ((Command.add line enacted true files).run.run.run { workspace, accounts, opened := () }).1 =
        ((checkLine line >>= fun _ => storing line enacted).run.run session).1 := by
  obtain ⟨settings, htarget, rfl⟩ := hreaches
  have hmisfiled := (target?_eq_some_iff.mp htarget).1
  have hrun : (Command.add line enacted true files).run =
      usingStore files (adding line enacted true) :=
    (run_of_filed hmisfiled rfl).trans (runAdd_eq line enacted true files)
  obtain ⟨toggle, hfirst⟩ := fst_run_usingStore accounts rfl htarget (adding line enacted true)
  rw [hrun]
  exact ⟨_, rfl, rfl, rfl, hfirst⟩

/-- What is stored in the place of a command that checks and adds a line. -/
theorem stored_add
    (hreaches : Reaches accounts (.add line enacted true files) workspace resolver place) :
    ((Command.add line enacted true files).run.ending accounts workspace).workspace.stored place =
      (added line enacted true resolver
        (.connect (workspace.stored place) false)).saved.completed := by
  obtain ⟨settings, htarget, rfl⟩ := hreaches
  have hstored := stored_ending accounts (.add line enacted true files) workspace place
  simp only [htarget, if_true] at hstored
  exact hstored

/-- A line that is accepted is stored if it can be encoded and there is a number left. -/
theorem ending_add
    (hreaches : Reaches accounts (.add line enacted true files) workspace resolver place)
    (htable : (workspace.stored place).rules = .present table)
    (haccepts : accepts resolver line = true) (hwhole : Text.isWhole line = true)
    (hroom : (table.last : Int) < RuleTable.greatest)
    (hconfirms : ∀ id, Displays (storedMarks id)) :
    let ending := (Command.add line enacted true files).run.ending accounts workspace
    ending.exit = 0 ∧
      (ending.workspace.stored place).rules = .present (table.append line enacted.toInt) := by
  have hfresh := Store.fresh_connect (workspace.stored place) false
  have hconnected :
      (Store.connect (workspace.stored place) false).draft.rules = .present table := by
    rw [Store.draft_connect, Workspace.completed_stored, htable]
  intro ending
  constructor
  · obtain ⟨session, rfl, hunused, hstore, hrun⟩ := fst_run_add hreaches
    rw [exit_eq_zero_iff, hrun, run_bind, run_checkLine_of_accepts session haccepts]
    rw [← hstore] at hfresh hconnected
    exact run_storing session hunused hfresh hconnected hroom hwhole hconfirms
  · rw [stored_add hreaches, added, haccepts, hfresh.run_addRule hconnected hroom hwhole]
    rfl

/-- A line that is not accepted, or that cannot be encoded, is refused. -/
theorem ending_add_refused
    (hreaches : Reaches accounts (.add line enacted true files) workspace resolver place)
    (hrefuses : accepts resolver line = false ∨ Text.isWhole line = false) :
    let ending := (Command.add line enacted true files).run.ending accounts workspace
    ending.exit ≠ 0 ∧ ending.workspace.stored place = workspace.stored place := by
  have hfresh := Store.fresh_connect (workspace.stored place) false
  have hsame : (Store.connect (workspace.stored place) false).saved.completed =
      workspace.stored place := by
    rw [Store.connect, Database.completed_completed, Workspace.completed_stored]
  obtain ⟨session, rfl, hunused, hstore, hrun⟩ := fst_run_add hreaches
  intro ending
  cases haccepts : accepts session.opened.resolver line with
  | false =>
    constructor
    · intro hexit
      obtain ⟨stop, output, hrefused⟩ := run_checkLine_of_not_accepts session haccepts
      rw [exit_eq_zero_iff, hrun, run_bind, hrefused] at hexit
      cases hexit
    · rw [stored_add hreaches, added, haccepts]
      exact hsame
  | true =>
    have hlone : Text.isWhole line = false := by simpa [haccepts] using hrefuses
    constructor
    · intro hexit
      obtain ⟨stop, hrefused⟩ := run_storing_lone enacted session hunused
        (by rw [hstore]; exact hfresh) hlone
      rw [exit_eq_zero_iff, hrun, run_bind, run_checkLine_of_accepts session haccepts, hrefused]
        at hexit
      cases hexit
    · obtain ⟨_, _, _, hwhole, _⟩ | ⟨_, hrefused⟩ := hfresh.addRule_cases line enacted
      · rw [hlone] at hwhole
        cases hwhole
      · rw [stored_add hreaches, added, haccepts, hrefused]
        exact hsame

/-- A parse for a program shows the rule of a line, and fails if it has none. -/
theorem ending_parse (accounts : List (String × Int)) {config : Option String} {settings : Settings}
    (hfiled : (Command.parse line config true).misfiled = false)
    (hread : settingsOf { config } workspace = .ok settings) :
    let ending := (Command.parse line config true).run.ending accounts workspace
    (∀ entry, (RuleLine.parseStrict (settings.resolver accounts) line).value = .ok (some entry) →
      ending.Tells (shownParse line entry)) ∧
    (accepts (settings.resolver accounts) line = false → ending.exit ≠ 0) := by
  have hrun : (Command.parse line config true).run = runParse line config true :=
    run_of_filed hfiled rfl
  have hsettings : (Run.settings { config } : Run Unit Settings).run.run
      { workspace, accounts, opened := () } =
        (.ok settings, { workspace, accounts, opened := () }) := by
    rw [run_settings, hread]
  have hresolver : (Run.resolver settings : Run Unit Resolver).run.run
      { workspace, accounts, opened := () } =
        (.ok (settings.resolver accounts), { workspace, accounts, opened := () }) := rfl
  intro ending
  constructor
  · intro entry hparse
    let shown : Value :=
      .record [("ruletext", .text line), ("rule", entry.toValue), ("error", .null)]
    have hended : (runParse line config true).run.run { workspace, accounts, opened := () } =
        (.ok (), {
          workspace, accounts
          opened := ()
          output := [.text (shown.jsonIndented ++ "\n")] }) := by
      simp only [runParse, run_bind, hsettings, hresolver, hparse, meaning, run_pure]
      rfl
    refine ⟨?_, ?_, _, ?_, Value.read_jsonIndented (json?_shownParse line entry)⟩
    · rw [exit_eq_zero_iff, hrun, hended]
    · simp only [ending, hrun, Run.ending, hended]
    · simp only [ending, hrun, Run.ending, hended, shown]
  · intro hrefuses hexit
    rw [exit_eq_zero_iff, hrun] at hexit
    simp only [runParse, run_bind, hsettings, hresolver] at hexit
    rcases hparse : (RuleLine.parseStrict (settings.resolver accounts) line).value with
      failure | _ | entry
    · simp only [hparse, meaning] at hexit
      cases hfault : fault? failure with
      | none =>
        simp only [hfault, run_throw] at hexit
        cases hexit
      | some fault =>
        simp only [hfault, run_pure, if_true] at hexit
        cases hexit
    · simp only [hparse, meaning, run_pure, if_true] at hexit
      cases hexit
    · rw [accepts_iff.mpr ⟨entry, hparse⟩] at hrefuses
      cases hrefuses

/-- A load of one line that is not accepted fails, or skips it. -/
theorem ending_load_of_not_accepts (hrefuses : accepts resolver line = false)
    (hreaches : Reaches accounts (.load files true) workspace resolver place)
    (htable : (workspace.stored place).rules = .present table) (hline : table.inForce = [line])
    (hoverrides : (workspace.stored place).overrides = .present overrides) :
    let ending := (Command.load files true).run.ending accounts workspace
    ending.exit ≠ 0 ∨ ending.Tells (shownLoad 1 []) := by
  obtain ⟨htells, hfails⟩ := tells_load hreaches htable hoverrides
  rw [hline] at htells hfails
  rcases hparse : (RuleLine.parse resolver line).value with failure | _ | entry
  · refine .inl (hfails ⟨line, List.mem_singleton_self line, ?_⟩)
    rw [Loading.reads_iff, hparse]
    exact Bool.false_ne_true
  · have hnone : Loading.rulesOf resolver [line] = [] := by
      simp [Loading.rulesOf, Loading.ruleOf?_eq hparse]
    obtain ⟨skipped, hlength, hshown⟩ := htells fun text htext => by
      rw [List.mem_singleton.mp htext]
      exact ⟨none, hparse⟩
    rw [hnone] at hlength hshown
    obtain rfl : skipped = 1 := by simpa using hlength.symm
    exact .inr hshown
  · rw [RuleLine.value_parse_eq_some_iff] at hparse
    rw [accepts_iff.mpr ⟨entry, hparse⟩] at hrefuses
    cases hrefuses

theorem mem_of_mem_calls {lines : List (List String)} {call : Call}
    (hcall : call ∈ calls accounts workspace lines) : call.args ∈ lines := by
  induction lines generalizing workspace with
  | nil => cases hcall
  | cons args rest ih =>
    obtain rfl | hrest := List.mem_cons.mp hcall
    · exact List.mem_cons_self
    · exact List.mem_cons_of_mem args (ih hrest)

/-- Lines that are added with the usual settings are checked with the usual resolver. -/
theorem checked_of_default {lines : List (List String)}
    (hlines : ∀ args ∈ lines, ∀ line enacted check files,
      request args = .command (.add line enacted check files) →
        check = true ∧ files.config = none) :
    Checked accounts (({} : Settings).resolver accounts)
      (works place (calls accounts workspace lines)) := by
  rintro ⟨command, settings⟩ hwork line enacted check files rfl
  obtain ⟨call, hcall, hworks⟩ := List.mem_filterMap.mp hwork
  unfold Call.worksOn? at hworks
  split at hworks
  · rename_i command hrequest
    split at hworks
    · rename_i found htarget
      split at hworks
      · cases hworks
        obtain ⟨hcheck, hconfig⟩ := hlines _ (mem_of_mem_calls hcall) _ _ _ _ hrequest
        exact ⟨hcheck, resolver_of_target? rfl hconfig htarget⟩
      · cases hworks
    · cases hworks
  · cases hworks

/-- What is said of one line by the command that checks and adds it, by a load over it alone and by
    a parse of it. -/
inductive Agreement (resolver : Resolver) (line : String) (room : Prop)
    (adding loading parsing : Ending) : Prop
  /-- It is added if it can be encoded and the table has room, and the load and the parse show the
      same rule. -/
  | rule (entry : ScopedRule) (added : Text.isWhole line = true → room → adding.exit = 0)
      (lone : Text.isWhole line = false → adding.exit ≠ 0)
      (loaded : LoadsAll resolver [line] [entry] loading)
      (parsed : parsing.Tells (shownParse line entry))
  /-- It is refused, and the load fails or skips it. -/
  | none (refused : adding.exit ≠ 0)
      (unloaded : loading.exit ≠ 0 ∨ loading.Tells (shownLoad 1 [])) (unparsed : parsing.exit ≠ 0)

/-- The three commands agree on a line wherever they find databases that they can work with. -/
theorem agreement {storing loading parsing : Workspace} {others : Files} {config : Option String}
    {elsewhere : Place} {stored : RuleTable} {overrides : OverrideTable} {settings : Settings}
    (hadds : Reaches accounts (.add line enacted true files) storing resolver place)
    (htable : (storing.stored place).rules = .present table)
    (hloads : Reaches accounts (.load others true) loading resolver elsewhere)
    (hstored : (loading.stored elsewhere).rules = .present stored) (hline : stored.inForce = [line])
    (hoverrides : (loading.stored elsewhere).overrides = .present overrides)
    (hfiled : (Command.parse line config true).misfiled = false)
    (hread : settingsOf { config } parsing = .ok settings)
    (hresolver : settings.resolver accounts = resolver) (hshows : ShowsOwn) :
    Agreement resolver line ((table.last : Int) < RuleTable.greatest)
      ((Command.add line enacted true files).run.ending accounts storing)
      ((Command.load others true).run.ending accounts loading)
      ((Command.parse line config true).run.ending accounts parsing) := by
  have hparsing := ending_parse accounts hfiled hread
  rw [hresolver] at hparsing
  obtain ⟨hparsed, hunparsed⟩ := hparsing
  cases haccepts : accepts resolver line with
  | true =>
    obtain ⟨entry, hparse⟩ := accepts_iff.mp haccepts
    have hall : ∀ text ∈ stored.inForce, accepts resolver text = true := by
      rw [hline]
      simpa using haccepts
    have hloaded := loadsAll_of_accepts hloads hstored hoverrides hall
    have hrule := Loading.ruleOf?_eq ((RuleLine.value_parse_eq_some_iff ..).mpr hparse)
    rw [hline, Loading.rulesOf, List.filterMap_cons_some hrule] at hloaded
    exact .rule entry
      (fun hwhole hroom => (ending_add hadds htable haccepts hwhole hroom hshows.stored).1)
      (fun hlone => (ending_add_refused hadds (.inr hlone)).1) hloaded (hparsed entry hparse)
  | false =>
    exact .none (ending_add_refused hadds (.inl haccepts)).1
      (ending_load_of_not_accepts haccepts hloads hstored hline hoverrides) (hunparsed haccepts)

/-- Where every line that was added to a database was checked first, whatever else was done there, a
    load with the same settings shows one rule for each row in force, in the order of the rows, and
    skips none. And the check is exact: on any line it agrees with a load and with a parse. -/
theorem checked_lines_load (accounts : List (String × Int)) (resolver : Resolver) (place : Place) :
    (∀ (workspace : Workspace) (lines : List (List String)) (table : RuleTable)
        (overrides : OverrideTable) (args : List String) (files : Files),
      (workspace.stored place).rules = .present table →
      (∀ row ∈ table.rows, accepts resolver row.text = true) →
      (workspace.stored place).overrides = .present overrides →
      Checked accounts resolver (works place (calls accounts workspace lines)) →
      request args = .command (.load files true) →
      Reaches accounts (.load files true) (after accounts workspace lines) resolver place →
      ∃ left entries, ((after accounts workspace lines).stored place).rules = .present left ∧
        LoadsAll resolver left.inForce entries
          (execute args accounts (after accounts workspace lines))) ∧
    ∀ (line : String) (enacted : Bool) (storing loading parsing : Workspace) (files others : Files)
        (config : Option String) (elsewhere : Place) (table stored : RuleTable)
        (overrides : OverrideTable) (settings : Settings),
      Reaches accounts (.add line enacted true files) storing resolver place →
      (storing.stored place).rules = .present table →
      Reaches accounts (.load others true) loading resolver elsewhere →
      (loading.stored elsewhere).rules = .present stored → stored.inForce = [line] →
      (loading.stored elsewhere).overrides = .present overrides →
      (Command.parse line config true).misfiled = false →
      settingsOf { config } parsing = .ok settings → settings.resolver accounts = resolver →
      ShowsOwn → Agreement resolver line ((table.last : Int) < RuleTable.greatest)
        ((Command.add line enacted true files).run.ending accounts storing)
        ((Command.load others true).run.ending accounts loading)
        ((Command.parse line config true).run.ending accounts parsing) := by
  constructor
  · intro workspace lines table overrides args files htable haccepts hoverrides hchecked hrequest
      hreaches
    obtain ⟨left, hleft, hrows⟩ := exists_rules_worked hchecked htable haccepts
    obtain ⟨others, hothers, _⟩ := exists_overrides_worked accounts hoverrides
      (works place (calls accounts workspace lines))
    rw [← stored_after] at hleft hothers
    have hinForce : ∀ text ∈ left.inForce, accepts resolver text = true := by
      intro text htext
      obtain ⟨row, hrow, rfl⟩ := List.mem_map.mp htext
      exact hrows row (List.mem_of_mem_filter hrow)
    refine ⟨left, Loading.rulesOf resolver left.inForce, hleft, ?_⟩
    rw [execute, hrequest]
    exact loadsAll_of_accepts hreaches hleft hothers hinForce
  · intro line enacted storing loading parsing files others config elsewhere table stored overrides
      settings hadds htable hloads hstored hline hoverrides hfiled hread hresolver hshows
    exact agreement hadds htable hloads hstored hline hoverrides hfiled hread hresolver hshows

end Check

/-- Of two lines one is added and the other is refused. -/
theorem checked_lines_load_added :
    let before := after [] {} [["add", "allow host:a"], ["add", "bogus"]]
    (∃ entries, LoadsAll (({} : Settings).resolver []) ["allow host:a"] entries
      (execute ["load", "--json"] [] before)) ∧
    Agreement (({} : Settings).resolver []) "allow host:a" ((0 : Int) < RuleTable.greatest)
      ((Command.add "allow host:a" true true {}).run.ending [] {})
      ((Command.load {} true).run.ending [] before)
      ((Command.parse "allow host:a" none true).run.ending [] {}) := by
  intro before
  have hbefore : (before.stored ["netrules.db"]).rules =
        .present { rows := [{ id := 1, text := "allow host:a", enacted := 1 }], last := 1 } ∧
      (before.stored ["netrules.db"]).overrides = .present {} ∧
      ((Command.load {} true).target? before).map (·.2) = some ["netrules.db"] ∧
      ((Command.add "allow host:a" true true {}).target? {}).map (·.2) = some ["netrules.db"] := by
    decide +kernel
  obtain ⟨hrules, hoverrides, hload, hadd⟩ := hbefore
  obtain ⟨⟨loaded, _⟩, hloads, rfl⟩ := Option.map_eq_some_iff.mp hload
  obtain ⟨⟨added, _⟩, hadds, hsame⟩ := Option.map_eq_some_iff.mp hadd
  have hadding : request ["add", "allow host:a"] =
      .command (.add "allow host:a" true true {}) := rfl
  have hbogus : request ["add", "bogus"] = .command (.add "bogus" true true {}) := rfl
  have hloading : request ["load", "--json"] = .command (.load {} true) := rfl
  have hchecked : ∀ args ∈ [["add", "allow host:a"], ["add", "bogus"]],
      ∀ line enacted check files, request args = .command (.add line enacted check files) →
        check = true ∧ files.config = none := by
    simp [hadding, hbogus]
  obtain ⟨hclean, hexact⟩ := checked_lines_load [] (({} : Settings).resolver []) ["netrules.db"]
  have hline : ({ rows := [{ id := 1, text := "allow host:a", enacted := 1 }], last := 1 } :
      RuleTable).inForce = ["allow host:a"] := by decide
  constructor
  · obtain ⟨left, entries, hleft, hshown⟩ := hclean {} [["add", "allow host:a"], ["add", "bogus"]]
      {} {} ["load", "--json"] {} rfl (by simp) rfl (checked_of_default hchecked) hloading
      ⟨loaded, hloads, resolver_of_target? rfl rfl hloads⟩
    rw [hrules] at hleft
    cases hleft
    rw [hline] at hshown
    exact ⟨entries, hshown⟩
  · exact hexact "allow host:a" true {} before {} {} {} none ["netrules.db"] {} _ {} {}
      ⟨added, hsame ▸ hadds, resolver_of_target? rfl rfl hadds⟩ rfl
      ⟨loaded, hloads, resolver_of_target? rfl rfl hloads⟩ hrules hline hoverrides rfl rfl rfl
      showsOwn_usual

end AllowPolicy.Command
