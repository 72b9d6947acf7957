import AllowPolicy.Proofs.Command.Exit
import AllowPolicy.Proofs.Command.History
import AllowPolicy.Proofs.Command.Query
import AllowPolicy.Proofs.Loading.Safe

namespace AllowPolicy

/-- The texts of the rules in force, in order. -/
def RuleTable.inForce (table : RuleTable) : List String :=
  (table.rows.filter (·.enacted = 1)).map (·.text)

theorem Engine.rows_eq {store : Store} (hfresh : store.Fresh) {table : RuleTable}
    (htable : store.draft.rules = .present table) :
    Engine.rows store = Loading.rowsOf table.inForce := by
  simp [Engine.rows, hfresh.run_enactedRules htable, Loading.rowsOf, RuleTable.inForce]

namespace Command

open Run

theorem fst_run_bind_error {σ α β : Type} {run : Run σ α} {session : Session σ} {stop : Stop}
    (hstop : (run.run.run session).1 = .error stop) (next : α → Run σ β) :
    ((run >>= next).run.run session).1 = .error stop := by
  rw [run_bind]
  generalize run.run.run session = result at hstop ⊢
  obtain ⟨_, after⟩ := result
  cases hstop
  rfl

variable [Surrogates] {resolver : Resolver} {line : String} {texts : List String}

theorem accepts_iff :
    accepts resolver line = true ↔
      ∃ entry, (RuleLine.parseStrict resolver line).value = .ok (some entry) := by
  unfold accepts
  split
  · rename_i entry hparse
    simp [hparse]
  · rename_i hparse
    simpa using hparse

/-- What is shown of a rule. -/
def shownRule (rule : Rule) : Json :=
  .record [("kind", .string rule.kind.name), ("pattern", .string rule.pattern),
    ("priority", .int rule.priority)]

/-- What a load tells of its rules and the number of rows that it skipped: the rules of every
    application, and under each identity, in the order in which they first come up, its own. -/
def shownLoad (skipped : Nat) (entries : List ScopedRule) : Json :=
  let own (uid : Nat) : Json := .list ((entries.filter (·.scope = uid)).map (shownRule ·.rule))
  let uids := ((entries.filter (!·.isGlobal)).map (·.scope)).eraseDups
  .record [("scanned", .int (entries.length + skipped)), ("loaded", .int entries.length),
    ("skipped", .int skipped), ("global", own 0),
    ("apps", .record (uids.map fun uid => (toString uid, own uid)))]

/-- A load for a program goes through and shows one rule for each of the texts, in their order and
    in the bucket of its scope. -/
structure LoadsAll (resolver : Resolver) (texts : List String) (entries : List ScopedRule)
    (ending : Ending) : Prop where
  parsed : List.Forall₂ (fun text entry =>
    (RuleLine.parseStrict resolver text).value = .ok (some entry)) texts entries
  tells : ending.Tells (shownLoad 0 entries)

theorem reads_of_accepts (haccepts : accepts resolver line = true) :
    Loading.Reads resolver line := by
  obtain ⟨entry, hparse⟩ := accepts_iff.mp haccepts
  exact ⟨some entry, (RuleLine.value_parse_eq_some_iff ..).mpr hparse⟩

/-- Accepted texts give one rule each. -/
theorem forall₂_rulesOf (haccepts : ∀ text ∈ texts, accepts resolver text = true) :
    List.Forall₂ (fun text entry => (RuleLine.parseStrict resolver text).value = .ok (some entry))
      texts (Loading.rulesOf resolver texts) := by
  induction texts with
  | nil => exact .nil
  | cons text rest ih =>
    obtain ⟨entry, hparse⟩ := accepts_iff.mp (haccepts text List.mem_cons_self)
    have hrule := Loading.ruleOf?_eq ((RuleLine.value_parse_eq_some_iff ..).mpr hparse)
    have hrest := ih fun other hother => haccepts other (List.mem_cons_of_mem text hother)
    rw [Loading.rulesOf, List.filterMap_cons_some hrule]
    exact .cons hparse hrest

theorem json?_toValue (rule : Rule) : rule.toValue.json? = some (shownRule rule) :=
  Value.json?_record_cons rfl <| Value.json?_record_cons rfl <|
    Value.json?_record_cons rfl Value.json?_record_nil

theorem json?_rules (entries : List ScopedRule) :
    (Value.list ((entries.map (·.rule)).map Rule.toValue)).json? =
      some (.list (entries.map (shownRule ·.rule))) := by
  have hshown : entries.map (shownRule ·.rule) = (entries.map (·.rule)).map shownRule := by
    rw [List.map_map]
    rfl
  rw [hshown]
  exact Value.json?_list_map json?_toValue _

/-- What a load says of its report and its rules. -/
theorem json?_loadValue {report : LoadReport} {skipped : Nat} {entries : List ScopedRule}
    (hscanned : report.scanned = entries.length + skipped)
    (hloaded : report.loaded = entries.length) (hskipped : report.skipped = skipped) :
    (loadValue report (entries.foldl Allowlist.place {})).json? =
      some (shownLoad skipped entries) := by
  let own (uid : Nat) : List ScopedRule := entries.filter (·.scope = uid)
  let uids : List Nat := ((entries.filter (!·.isGlobal)).map (·.scope)).eraseDups
  have hglobal : (entries.foldl Allowlist.place {}).global = (own 0).map (·.rule) :=
    (Allowlist.extended_foldl_place {} entries).global
  have happs : (entries.foldl Allowlist.place {}).apps =
      uids.map fun uid : Nat => ((uid : Int), (own uid).map (·.rule)) :=
    Allowlist.apps_foldl_place entries
  have hbuckets : (Value.record (uids.map fun uid =>
        (toString uid, .list (((own uid).map (·.rule)).map Rule.toValue)))).json? =
      some (.record (uids.map fun uid =>
        (toString uid, .list ((own uid).map (shownRule ·.rule))))) :=
    Value.json?_record_map (fun uid => json?_rules (own uid)) uids
  have hshown : shownLoad skipped entries =
      .record [("scanned", .int (entries.length + skipped)), ("loaded", .int entries.length),
        ("skipped", .int skipped), ("global", .list ((own 0).map (shownRule ·.rule))),
        ("apps", .record (uids.map fun uid =>
          (toString uid, .list ((own uid).map (shownRule ·.rule)))))] := rfl
  have hvalue : loadValue report (entries.foldl Allowlist.place {}) =
      .record [("scanned", .int (entries.length + skipped)), ("loaded", .int entries.length),
        ("skipped", .int skipped), ("global", .list (((own 0).map (·.rule)).map Rule.toValue)),
        ("apps", .record (uids.map fun uid =>
          (toString uid, .list (((own uid).map (·.rule)).map Rule.toValue))))] := by
    rw [loadValue, hglobal, happs, hscanned, hloaded, hskipped, List.map_map]
    rfl
  rw [hvalue, hshown]
  exact Value.json?_record_cons rfl <| Value.json?_record_cons rfl <|
    Value.json?_record_cons rfl <| Value.json?_record_cons (json?_rules (own 0)) <|
      Value.json?_record_cons hbuckets Value.json?_record_nil

/-- A load of texts that can be read shows the rules in them, and skips the others. -/
theorem outcome_of_reads (hreads : ∀ text ∈ texts, Loading.Reads resolver text) :
    ∃ report skipped, Loading.outcome Allowlist.sink resolver (Loading.rowsOf texts) {} =
        (.ok report, (Loading.rulesOf resolver texts).foldl Allowlist.place {}) ∧
      texts.length = (Loading.rulesOf resolver texts).length + skipped ∧
      (loadValue report ((Loading.rulesOf resolver texts).foldl Allowlist.place {})).json? =
        some (shownLoad skipped (Loading.rulesOf resolver texts)) := by
  have hrules : (texts.map (Loading.ruleOf? resolver)).reduceOption =
      Loading.rulesOf resolver texts := by
    rw [List.reduceOption, List.filterMap_map]
    rfl
  have hcount := Loading.length_eq_add_count_none (texts.map (Loading.ruleOf? resolver))
  have hkinds := (Loading.rulesOf resolver texts).length_eq_length_filter_add (·.isGlobal)
  rw [hrules, List.length_map] at hcount
  have houtcome := Loading.outcome_sink_of_allRead (Loading.allRead_rowsOf hreads) {}
  rw [hrules] at houtcome
  refine ⟨_, _, houtcome, hcount, json?_loadValue ?_ ?_ ?_⟩
  · simp [Loading.foldl_add, Loading.Scan.report]
    omega
  · simp only [Loading.foldl_add, Loading.Scan.report, LoadReport.loaded, hrules, List.nil_append]
    omega
  · simp only [Loading.foldl_add, Loading.Scan.report]
    omega

section Loads

variable [Console] {session : Session (Engine Unit)} {report : LoadReport} {fresh : Allowlist}

/-- A load that goes through gives its report and its rules, if there is a table of overrides. -/
theorem run_loading_ok (json : Bool) (hunused : session.opened.lock = {})
    (hload : Loading.outcome Allowlist.sink session.opened.resolver
      (Engine.rows session.opened.store) {} = (.ok report, fresh)) {table : OverrideTable}
    (htable : session.opened.store.overrideTable? = some table) :
    ∃ engine, (loading json).run.run session =
      (.ok (report, fresh), { session with opened := engine }) := by
  have hrefresh := Engine.refresh_unused () hunused
  rw [Engine.refreshed, hload] at hrefresh
  simp only [Store.run_overrides_of_table htable] at hrefresh
  refine ⟨{ session.opened with
    overrides := Engine.inForce (Store.decisions table), allowlist := fresh }, ?_⟩
  simp only [loading, run_bind, run_act, hrefresh]
  rfl

theorem stopped_loading {failure : Failure} {left : Allowlist} (json : Bool)
    (hunused : session.opened.lock = {})
    (hload : Loading.outcome Allowlist.sink session.opened.resolver
      (Engine.rows session.opened.store) {} = (.error failure, left)) :
    ∃ stop, ((loading json).run.run session).1 = .error stop := by
  have hrefresh := Engine.refresh_unused () hunused
  rw [Engine.refreshed, hload] at hrefresh
  obtain ⟨stop, output, hends⟩ := ends_expect (α := LoadReport) (shows_report json) failure session
  refine ⟨stop, ?_⟩
  simp only [loading, run_bind, run_act, hrefresh, hends]

variable [Yaml.Reads]

/-- The command works on the database in a place, and its settings choose this resolver. -/
def Reaches (accounts : List (String × Int)) (command : Command) (workspace : Workspace)
    (resolver : Resolver) (place : Place) : Prop :=
  ∃ settings, command.target? workspace = some (settings, place) ∧
    settings.resolver accounts = resolver

variable {accounts : List (String × Int)} {workspace : Workspace} {place : Place} {files : Files}
  {table : RuleTable} {overrides : OverrideTable}

/-- A load for a program comes to what comes of the rules in force in its place. -/
theorem ending_load (hreaches : Reaches accounts (.load files true) workspace resolver place)
    (htable : (workspace.stored place).rules = .present table)
    (hoverrides : (workspace.stored place).overrides = .present overrides) :
    match Loading.outcome Allowlist.sink resolver (Loading.rowsOf table.inForce) {} with
    | (.ok report, fresh) => ∀ json, (loadValue report fresh).json? = some json →
        ((Command.load files true).run.ending accounts workspace).Tells json
    | (.error _, _) => ((Command.load files true).run.ending accounts workspace).exit ≠ 0 := by
  obtain ⟨settings, htarget, rfl⟩ := hreaches
  have hmisfiled := (target?_eq_some_iff.mp htarget).1
  have hrun : (Command.load files true).run =
      (usingStore files (loading true) >>= fun loaded => tell (loadValue loaded.1 loaded.2)) :=
    (run_of_filed hmisfiled rfl).trans (bind_assoc ..).symm
  have hrows : Engine.rows (.connect (workspace.stored place) false) =
      Loading.rowsOf table.inForce := by
    refine Engine.rows_eq (Store.fresh_connect _ _) ?_
    rw [Store.draft_connect, Workspace.completed_stored, htable]
  rcases hload : Loading.outcome Allowlist.sink (settings.resolver accounts)
    (Loading.rowsOf table.inForce) {} with ⟨failure | report, fresh⟩
  · rw [← hrows] at hload
    obtain ⟨toggle, hfirst⟩ := fst_run_usingStore accounts rfl htarget (loading true)
    have hstopped : ∃ stop, ((usingStore files (loading true)).run.run
        { workspace, accounts, opened := () }).1 = .error stop := by
      rw [hfirst]
      exact stopped_loading true rfl hload
    obtain ⟨stop, hstop⟩ := hstopped
    intro hexit
    rw [exit_eq_zero_iff, hrun, fst_run_bind_error hstop] at hexit
    cases hexit
  · rw [← hrows] at hload
    intro json hjson
    rw [hrun]
    refine tells_usingStore accounts _ rfl htarget
      (fun toggle => run_loading_ok true rfl hload (overrideTable?_connect hoverrides)) ?_
      (Value.read_jsonIndented hjson)
    exact tell_eq _

/-- A load for a program shows the rules in force and skips the other lines, if it can read them
    all, and fails if not. -/
theorem tells_load (hreaches : Reaches accounts (.load files true) workspace resolver place)
    (htable : (workspace.stored place).rules = .present table)
    (hoverrides : (workspace.stored place).overrides = .present overrides) :
    let ending := (Command.load files true).run.ending accounts workspace
    ((∀ text ∈ table.inForce, Loading.Reads resolver text) →
      ∃ skipped, table.inForce.length =
          (Loading.rulesOf resolver table.inForce).length + skipped ∧
        ending.Tells (shownLoad skipped (Loading.rulesOf resolver table.inForce))) ∧
    ((∃ text ∈ table.inForce, ¬ Loading.Reads resolver text) → ending.exit ≠ 0) := by
  have hending := ending_load hreaches htable hoverrides
  intro ending
  constructor
  · intro hreads
    obtain ⟨report, skipped, hload, hlength, hjson⟩ := outcome_of_reads hreads
    simp only [hload] at hending
    exact ⟨skipped, hlength, hending _ hjson⟩
  · rintro ⟨text, htext, hunread⟩
    have hrow : .ok (.ofText text) ∈ Loading.rowsOf table.inForce :=
      List.mem_map_of_mem htext
    rw [Loading.reads_iff, Bool.not_eq_true] at hunread
    obtain ⟨failure, hfailed⟩ := Loading.outcome_of_unread hrow
      (by rw [Loading.readRow_ofText]; exact hunread) Allowlist.sink {}
    simp only [hfailed] at hending
    exact hending

/-- Rules in force that are all accepted are all shown. -/
theorem loadsAll_of_accepts
    (hreaches : Reaches accounts (.load files true) workspace resolver place)
    (htable : (workspace.stored place).rules = .present table)
    (hoverrides : (workspace.stored place).overrides = .present overrides)
    (haccepts : ∀ text ∈ table.inForce, accepts resolver text = true) :
    LoadsAll resolver table.inForce (Loading.rulesOf resolver table.inForce)
      ((Command.load files true).run.ending accounts workspace) := by
  have hparsed := forall₂_rulesOf haccepts
  obtain ⟨skipped, hlength, htells⟩ := (tells_load hreaches htable hoverrides).1
    fun text htext => reads_of_accepts (haccepts text htext)
  obtain rfl : skipped = 0 := by
    have hsame := hparsed.length_eq
    omega
  exact ⟨hparsed, htells⟩

end Loads

/-- Whatever line was added was checked first, with this resolver. -/
def Checked (accounts : List (String × Int)) (resolver : Resolver)
    (works : List (Command × Settings)) : Prop :=
  ∀ work ∈ works, ∀ line enacted check files, work.1 = .add line enacted check files →
    check = true ∧ work.2.resolver accounts = resolver

/-- A table of accepted lines has got accepted lines only after commands that checked them. -/
theorem exists_rules_worked {works : List (Command × Settings)}
    (hchecked : Checked accounts resolver works) {db : Database}
    (htable : db.rules = .present table)
    (haccepts : ∀ row ∈ table.rows, accepts resolver row.text = true) :
    ∃ left, (worked accounts works db).rules = .present left ∧
      ∀ row ∈ left.rows, accepts resolver row.text = true := by
  induction works using List.reverseRecOn with
  | nil => exact ⟨table, htable, haccepts⟩
  | append_singleton works work ih =>
    obtain ⟨left, hleft, hrows⟩ :=
      ih fun other hother => hchecked other (List.mem_append_left [work] hother)
    obtain ⟨after, hafter, hchange⟩ :=
      exists_rules_kept work.1 (work.2.resolver accounts) hleft
    have hwork := hchecked work (List.mem_append_right works (List.mem_singleton_self work))
    refine ⟨after, ?_, ?_⟩
    · rw [worked_concat, Database.completed, hafter]
      rfl
    · generalize work.1 = command at hwork hchange
      cases hchange with
      | none => exact hrows
      | @added line enacted check files hcheck =>
        obtain ⟨rfl, hresolver⟩ := hwork line enacted check files rfl
        intro row hrow
        obtain hold | rfl := RuleTable.mem_rows_append hrow
        · exact hrows row hold
        · rw [← hresolver]
          exact hcheck rfl
      | switched =>
        intro row hrow
        obtain ⟨old, hold, rfl⟩ := List.mem_map.mp hrow
        have haccepted := hrows old hold
        split <;> exact haccepted

end Command

end AllowPolicy
