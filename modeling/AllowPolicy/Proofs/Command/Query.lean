import AllowPolicy.Proofs.Command.History

namespace AllowPolicy.Command

open Run

theorem allowed?_told (table : OverrideTable) (said : Option (String × Option Bool))
    (name : String) :
    (told table said).allowed? (some name) =
      (said.toList.lookup name).getD (table.allowed? (some name)) := by
  obtain _ | ⟨owner, _ | allowed⟩ := said
  · rfl
  · rw [told, OverrideTable.allowed?_remove, Option.toList_some, lookup_cons_eq_ite]
    by_cases hname : name = owner <;> simp [hname]
  · rw [told, OverrideTable.allowed?_set, Option.toList_some, lookup_cons_eq_ite]
    have hallowed : decide ((Verdict.flag allowed).toInt ≠ 0) = allowed := by
      cases allowed <;> rfl
    by_cases hname : name = owner <;> simp [hname, hallowed]

/-- A query can be asked for any name, default and network. -/
theorem request_query (path name : String) (on : Connectivity) (default : Bool) :
    request ["query", "--db", path, "--context", on.name,
        if default then "--default" else "--no-default", "--json", "--", name] =
      .command (.query name on default { database := some path } true) := by
  cases on <;> cases default <;> rfl

section Said

variable [Surrogates]

/-- What commands said about applications, in order. -/
def said (works : List (Command × Settings)) : List (String × Option Bool) :=
  works.filterMap (·.1.override?)

/-- What was said last about an application is in the table, as long as there is one. -/
theorem exists_overrides_worked (accounts : List (String × Int)) {db : Database}
    {table : OverrideTable} (htable : db.overrides = .present table)
    (works : List (Command × Settings)) :
    ∃ left, (worked accounts works db).overrides = .present left ∧
      ∀ name, left.allowed? (some name) =
        ((said works).reverse.lookup name).getD (table.allowed? (some name)) := by
  induction works using List.reverseRecOn with
  | nil => exact ⟨table, htable, fun name => rfl⟩
  | append_singleton works work ih =>
    obtain ⟨left, hleft, hsaid⟩ := ih
    have hkept := overrides_kept work.1 (work.2.resolver accounts) hleft
    refine ⟨told left work.1.override?, ?_, fun name => ?_⟩
    · rw [worked_concat, Database.completed, hkept]
      rfl
    · have hlast : (said (works ++ [work])).reverse =
          work.1.override?.toList ++ (said works).reverse := by
        cases hover : work.1.override? <;> simp [said, hover]
      rw [allowed?_told, hlast, List.lookup_append, hsaid]
      cases work.1.override?.toList.lookup name <;> rfl

/-- What a query tells a program. -/
def answer (name : String) (on : Connectivity) (enabled : Bool) : Json :=
  .record [("packagename", .string name), ("context", .string on.name), ("enabled", .bool enabled)]

variable [Console] [Yaml.Reads] {workspace : Workspace} {settings : Settings} {place : Place}

/-- A query for a program answers from the table of its place. -/
theorem ending_query (accounts : List (String × Int)) {name : String} {on : Connectivity}
    {default : Bool} {files : Files}
    (htarget :
      (Command.query name on default files true).target? workspace = some (settings, place))
    {table : OverrideTable} (htable : (workspace.stored place).overrides = .present table) :
    ((Command.query name on default files true).run.ending accounts workspace).Tells
      (answer name on ((table.allowed? (some name)).getD default)) := by
  let line (enabled : Bool) : String :=
    (Value.record [("packagename", .text name), ("context", .text on.name),
      ("enabled", .bool enabled)]).jsonLine ++ "\n"
  have hop := Store.run_overrides_of_table (overrideTable?_connect htable)
  have hmisfiled := (target?_eq_some_iff.mp htarget).1
  have hrun : (Command.query name on default files true).run =
      (usingStore files (perform (Engine.onStore Store.overrides)) >>= fun stored =>
        put (.text (line (stored.query on (some name) default)))) :=
    (run_of_filed hmisfiled rfl).trans (bind_assoc ..).symm
  rw [hrun, ← Store.get?_decisions]
  refine tells_usingStore accounts _ rfl htarget (a := Store.decisions table) (fun toggle => ?_) rfl
    (Value.read_jsonLine <| Value.json?_record_cons rfl <| Value.json?_record_cons rfl <|
      Value.json?_record_cons rfl Value.json?_record_nil)
  obtain ⟨engine, _, hperform⟩ := run_perform_ok (uses_onStore Store.overrides) {
    workspace, accounts
    opened := engineOf settings accounts (.connect (workspace.stored place) false) toggle } rfl hop
  exact ⟨engine, hperform⟩

/-- Whatever command lines were worked off, a query that opens the database in a place tells what
    the overrides among them that worked on this database said last about exactly the name that is
    asked for: yes or no after a decision, the given default after a removal, what was stored at
    first if none said anything. The network makes no difference, and under a name that cannot be
    encoded nothing is ever said. -/
theorem ending_query_after (accounts : List (String × Int)) (workspace : Workspace)
    (lines : List (List String)) {place : Place} {table : OverrideTable}
    (htable : (workspace.stored place).overrides = .present table) {args : List String}
    {name : String} {on : Connectivity} {default : Bool} {files : Files} {settings : Settings}
    (hrequest : request args = .command (.query name on default files true))
    (htarget : (Command.query name on default files true).target?
      (after accounts workspace lines) = some (settings, place)) :
    let last? := (said (works place (calls accounts workspace lines))).reverse.lookup name
    (execute args accounts (after accounts workspace lines)).Tells
      (answer name on ((last?.getD (table.allowed? (some name))).getD default)) := by
  obtain ⟨left, hleft, hsaid⟩ := exists_overrides_worked accounts htable
    (works place (calls accounts workspace lines))
  rw [← stored_after] at hleft
  have hending := ending_query accounts htarget hleft
  rw [hsaid] at hending
  rw [execute, hrequest]
  exact hending

end Said

/-- An override is taken back, and one stays though a command without a flag comes after it. -/
theorem ending_query_after_cleared :
    let lines := [["override", "mail", "--deny"], ["override", "news", "--clear"],
      ["override", "mail"]]
    let query (name : String) := execute ["query", name, "--json"] [] (after [] {} lines)
    (query "mail").Tells (answer "mail" .wifi false) ∧
      (query "news").Tells (answer "news" .wifi true) := by
  intro lines query
  have hworked : said (works ["netrules.db"] (calls [] {} lines)) =
        [("mail", some false), ("news", none)] ∧
      ∀ name ∈ ["mail", "news"], ((Command.query name .wifi true {} true).target?
        (after [] {} lines)).map (·.2) = some ["netrules.db"] := by
    decide +kernel
  obtain ⟨hsaid, hplaces⟩ := hworked
  have htable : (({} : Workspace).stored ["netrules.db"]).overrides = .present {} := rfl
  have hmail : request ["query", "mail", "--json"] =
      .command (.query "mail" .wifi true {} true) := rfl
  have hnews : request ["query", "news", "--json"] =
      .command (.query "news" .wifi true {} true) := rfl
  constructor
  · obtain ⟨⟨settings, _⟩, htarget, rfl⟩ := Option.map_eq_some_iff.mp (hplaces "mail" (by simp))
    have hanswer := ending_query_after [] {} lines htable hmail htarget
    rw [hsaid] at hanswer
    exact hanswer
  · obtain ⟨⟨settings, _⟩, htarget, rfl⟩ := Option.map_eq_some_iff.mp (hplaces "news" (by simp))
    have hanswer := ending_query_after [] {} lines htable hnews htarget
    rw [hsaid] at hanswer
    exact hanswer

end AllowPolicy.Command
