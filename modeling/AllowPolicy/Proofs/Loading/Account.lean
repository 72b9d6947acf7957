import AllowPolicy.Proofs.Loading.Safe
import AllowPolicy.Proofs.RuleLine.Remark

namespace AllowPolicy.Loading

open RuleLine

/-- The line gives a rule and no remark, or no rule and one remark. -/
inductive Settled [Surrogates] (resolver : Resolver) (text : String) : Prop
  | rule (entry : ScopedRule) (parsed : (parse resolver text).value = .ok (some entry))
    (plain : remark? resolver text = none)
  | skipped (record : Record) (parsed : (parse resolver text).value = .ok none)
    (remark : remark? resolver text = some record)

/-- The record of a rule that has found its place. -/
def routedRecord (entry : ScopedRule) : Record := { level := .debug, text := routedText entry }

variable {σ : Type} {resolver : Resolver}

/-- Rules are told of in order, up to the first that the sink refuses. -/
theorem journal_route (sink : Sink σ) (entries : List ScopedRule) (state : σ) :
    (((route sink entries).run state).value.1 = .ok () ∧
        ((route sink entries).run state).journal = entries.map routedRecord) ∨
      ∃ failure accepted entry rest before after, entries = accepted ++ entry :: rest ∧
        (offer sink entry).run before = (.error failure, after) ∧
        ((route sink entries).run state).value.1 = .error failure ∧
        ((route sink entries).run state).journal = accepted.map routedRecord := by
  induction entries generalizing state with
  | nil => exact .inl ⟨rfl, rfl⟩
  | cons entry later ih =>
    rcases hoffer : (offer sink entry).run state with ⟨failure | _, after⟩
    · refine .inr ⟨failure, [], entry, later, state, after, rfl, hoffer, ?_, ?_⟩
      · simp [route, hoffer]
      · simp [route, hoffer]
    · have hvalue : ((route sink (entry :: later)).run state).value =
          ((route sink later).run after).value := by simp [route, hoffer]
      have hjournal : ((route sink (entry :: later)).run state).journal =
          routedRecord entry :: ((route sink later).run after).journal := by
        simp [route, hoffer, log, routedRecord]
      rw [hvalue, hjournal]
      rcases ih after with ⟨hok, hrecords⟩ |
        ⟨failure, accepted, last, rest, before, left, rfl, hanswer, hfailed, hrecords⟩
      · exact .inl ⟨hok, congrArg _ hrecords⟩
      · exact .inr ⟨failure, entry :: accepted, last, rest, before, left, rfl, hanswer, hfailed,
          congrArg _ hrecords⟩

section Texts

variable [Surrogates]

/-- How a load of lines into a sink ends, and what is written down on the way. -/
inductive Accounts (sink : Sink σ) (resolver : Resolver) (texts : List String) :
    Outcome LoadReport → List Record → Prop
  /-- First there are the remarks on the lines without a rule, then every rule is told of, both in
      the order of the lines, and the summary is last. -/
  | loaded {report : LoadReport} (settled : ∀ text ∈ texts, Settled resolver text)
      (scanned : report.scanned = texts.length)
      (loaded : report.loaded = (rulesOf resolver texts).length)
      (skipped : report.skipped = (texts.filterMap (remark? resolver)).length) :
      Accounts sink resolver texts (.ok report)
        (texts.filterMap (remark? resolver) ++ (rulesOf resolver texts).map routedRecord ++
          [{ level := .info, text := report.summary }])
  /-- A line repeats a field. The remarks on the lines before it are followed by one record of
      it. -/
  | aborted {front rest : List String} {text : String} (split : texts = front ++ text :: rest)
      (settled : ∀ other ∈ front, Settled resolver other) {fault : Fault} (field : Field)
      (twice : fault = Constraints.duplicate (.ofList (trimEnd text.toList)) field)
      (parsed : (parse resolver text).value = .error (.fault fault)) :
      Accounts sink resolver texts (.error (.fault fault))
        (front.filterMap (remark? resolver) ++
          [{ level := .error, text := abortText fault text }])
  /-- Surrogates stand alone in the pattern of a line. The remarks on the lines before it are all
      that is written down. -/
  | broken {front rest : List String} {text : String} (split : texts = front ++ text :: rest)
      (settled : ∀ other ∈ front, Settled resolver other) (kind : Rule.Kind)
      (lone : Lone resolver text kind) (notWhole : Text.isWhole text = false) :
      Accounts sink resolver texts (.error (Rule.loneSurrogate kind))
        (front.filterMap (remark? resolver))
  /-- The sink itself refuses a rule, and the rules before it are told of. -/
  | refused {failure : Failure} (settled : ∀ text ∈ texts, Settled resolver text)
      {accepted rest : List ScopedRule} {entry : ScopedRule}
      (split : rulesOf resolver texts = accepted ++ entry :: rest) {before after : σ}
      (answer : (offer sink entry).run before = (.error failure, after)) :
      Accounts sink resolver texts (.error failure)
        (texts.filterMap (remark? resolver) ++ accepted.map routedRecord)

/-- A line that gives a rule or a remark is read with it. One that repeats a field is read with the
    record that ends the load. Any other is refused for its pattern, without a record. -/
theorem readRow_cases (hquiet : resolver.IsQuiet)
    (hnonnegative : ∀ name uid, resolver.resolve name = some uid → 0 ≤ uid) (text : String) :
    (Settled resolver text ∧ readRow resolver (.ok (.ofText text)) =
        ⟨.ok (ruleOf? resolver text), (remark? resolver text).toList⟩) ∨
      (∃ field, (parse resolver text).value =
          .error (.fault (Constraints.duplicate (.ofList (trimEnd text.toList)) field)) ∧
        readRow resolver (.ok (.ofText text)) =
          ⟨.error (.fault (Constraints.duplicate (.ofList (trimEnd text.toList)) field)),
            [{ level := .error
               text := abortText (Constraints.duplicate (.ofList (trimEnd text.toList)) field)
                 text }]⟩) ∨
      ∃ kind, Lone resolver text kind ∧
        (parse resolver text).value = .error (Rule.loneSurrogate kind) ∧
        readRow resolver (.ok (.ofText text)) = ⟨.error (Rule.loneSurrogate kind), []⟩ := by
  have hfate := fate hquiet hnonnegative text
  have hread : readRow resolver (.ok (.ofText text)) = readRule resolver text := rfl
  rw [hread, readRule]
  rcases hparse : parse resolver text with ⟨value, journal⟩
  rw [hparse] at hfate
  cases hfate with
  | rule entry hplain =>
    refine .inl ⟨.rule entry (by rw [hparse]) hplain, ?_⟩
    rw [hplain, ruleOf?, hparse]
    rfl
  | skipped record hremark =>
    refine .inl ⟨.skipped record (by rw [hparse]) hremark, ?_⟩
    rw [hremark, ruleOf?, hparse]
    rfl
  | repeated field => exact .inr (.inl ⟨field, rfl, rfl⟩)
  | refused kind hlone => exact .inr (.inr ⟨kind, hlone, rfl, rfl⟩)

/-- The scan of lines that can all be read goes on behind them, with their remarks. -/
theorem scanRows_append {front : List String}
    (hfront : ∀ text ∈ front, readRow resolver (.ok (.ofText text)) =
      ⟨.ok (ruleOf? resolver text), (remark? resolver text).toList⟩) (scan : Scan) (rest : Rows) :
    ∃ later, later = (front.map (ruleOf? resolver)).foldl Scan.add scan ∧
      scanRows resolver scan (rowsOf front ++ rest) =
        ⟨(scanRows resolver later rest).value,
          front.filterMap (remark? resolver) ++ (scanRows resolver later rest).journal⟩ := by
  induction front generalizing scan with
  | nil => exact ⟨scan, rfl, rfl⟩
  | cons text others ih =>
    obtain ⟨hread, hothers⟩ := List.forall_mem_cons.mp hfront
    obtain ⟨later, hlater, hscan⟩ := ih hothers (scan.add (ruleOf? resolver text))
    refine ⟨later, hlater, ?_⟩
    have hcons : scanRows resolver scan (rowsOf (text :: others) ++ rest) =
        ⟨(scanRows resolver (scan.add (ruleOf? resolver text)) (rowsOf others ++ rest)).value,
          (remark? resolver text).toList ++ (scanRows resolver
            (scan.add (ruleOf? resolver text)) (rowsOf others ++ rest)).journal⟩ := by
      change scanRows resolver scan (.ok (.ofText text) :: (rowsOf others ++ rest)) = _
      rw [scanRows, hread]
      rfl
    rw [hcons, hscan]
    cases hremark : remark? resolver text <;> simp [hremark]

theorem Settled.reads {text : String} (hsettled : Settled resolver text) :
    Reads resolver text := by
  cases hsettled with
  | rule entry hparse => exact ⟨_, hparse⟩
  | skipped record hparse => exact ⟨_, hparse⟩

/-- Settled lines have as many remarks as there are lines without a rule. -/
theorem count_none_of_settled {texts : List String}
    (hsettled : ∀ text ∈ texts, Settled resolver text) :
    (texts.map (ruleOf? resolver)).count none = (texts.filterMap (remark? resolver)).length := by
  induction texts with
  | nil => rfl
  | cons text rest ih =>
    obtain ⟨hfirst, hrest⟩ := List.forall_mem_cons.mp hsettled
    cases hfirst with
    | rule entry hparse hplain => simp [ruleOf?_eq hparse, hplain, ih hrest]
    | skipped record hparse hremark => simp [ruleOf?_eq hparse, hremark, ih hrest]

/-- Every settled line counts once. -/
theorem length_eq_of_settled {texts : List String}
    (hsettled : ∀ text ∈ texts, Settled resolver text) :
    texts.length =
      (texts.filterMap (remark? resolver)).length + (rulesOf resolver texts).length := by
  induction texts with
  | nil => rfl
  | cons text rest ih =>
    obtain ⟨hfirst, hrest⟩ := List.forall_mem_cons.mp hsettled
    have hlength := ih hrest
    unfold rulesOf at hlength ⊢
    cases hfirst with
    | rule entry hparse hplain =>
      simp [ruleOf?_eq hparse, hplain]
      omega
    | skipped record hparse hremark =>
      simp [ruleOf?_eq hparse, hremark]
      omega

section Run

variable {ι : Type} {rows : Rows} {scan : Scan} {notes : List Record} {sink : Sink σ} {state : σ}

theorem run_of_unread {failure : Failure}
    (hscan : scanRows resolver {} rows = ⟨(scan, .error failure), notes⟩) (lock : Lock ι) :
    (((run sink resolver rows lock).run state).value.1.result = .error failure) ∧
      ((run sink resolver rows lock).run state).journal = notes := by
  simp [run, hscan]

theorem run_of_routed (hscan : scanRows resolver {} rows = ⟨(scan, .ok ()), notes⟩)
    (hroute : ((route sink scan.staged).run state).value.1 = .ok ()) (lock : Lock ι) :
    ((run sink resolver rows lock).run state).value.1.result = .ok scan.report ∧
      ((run sink resolver rows lock).run state).journal =
        notes ++ ((route sink scan.staged).run state).journal ++
          [{ level := .info, text := scan.report.summary }] := by
  simp [run, hscan, hroute, log]

theorem run_of_refused {failure : Failure}
    (hscan : scanRows resolver {} rows = ⟨(scan, .ok ()), notes⟩)
    (hroute : ((route sink scan.staged).run state).value.1 = .error failure) (lock : Lock ι) :
    ((run sink resolver rows lock).run state).value.1.result = .error failure ∧
      ((run sink resolver rows lock).run state).journal =
        notes ++ ((route sink scan.staged).run state).journal := by
  simp [run, hscan, hroute]

end Run

section Quiet

variable (hquiet : resolver.IsQuiet)
  (hnonnegative : ∀ name uid, resolver.resolve name = some uid → 0 ≤ uid)
include hquiet hnonnegative

theorem settled_of_reads {text : String} (hreads : Reads resolver text) :
    Settled resolver text ∧ readRow resolver (.ok (.ofText text)) =
      ⟨.ok (ruleOf? resolver text), (remark? resolver text).toList⟩ := by
  obtain ⟨rule, hrule⟩ := hreads
  obtain hsettled | ⟨field, htwice, _⟩ | ⟨kind, _, hrefused, _⟩ :=
    readRow_cases hquiet hnonnegative text
  · exact hsettled
  · cases htwice.symm.trans hrule
  · cases hrefused.symm.trans hrule

/-- A load accounts for its lines, whatever the sink makes of the rules. -/
theorem accounts_run {ι : Type} (sink : Sink σ) (texts : List String) (lock : Lock ι) (state : σ) :
    Accounts sink resolver texts ((run sink resolver (rowsOf texts) lock).run state).value.1.result
      ((run sink resolver (rowsOf texts) lock).run state).journal := by
  obtain hreads | ⟨front, text, rest, rfl, hfront, hunread⟩ := reads_or_first resolver texts
  · have hsettled text htext := settled_of_reads hquiet hnonnegative (hreads text htext)
    obtain ⟨scan, hscan, hrows⟩ :=
      scanRows_append (fun text htext => (hsettled text htext).2) {} []
    rw [List.append_nil, scanRows, Logged.journal_pure, List.append_nil] at hrows
    have hsettled text htext := (hsettled text htext).1
    have hrules : (texts.map (ruleOf? resolver)).reduceOption = rulesOf resolver texts := by
      rw [List.reduceOption, List.filterMap_map]
      rfl
    rw [foldl_add, hrules, count_none_of_settled hsettled] at hscan
    have hstaged : scan.staged = rulesOf resolver texts := by simp [hscan]
    rcases journal_route sink scan.staged state with
      ⟨hroute, hjournal⟩ |
      ⟨failure, accepted, entry, rest, before, after, hsplit, hanswer, hroute, hjournal⟩
    · obtain ⟨hresult, hrecords⟩ := run_of_routed hrows hroute lock
      rw [hresult, hrecords, hjournal, hstaged]
      have hkinds := (rulesOf resolver texts).length_eq_length_filter_add (·.isGlobal)
      refine .loaded hsettled ?_ ?_ ?_
      · simp [hscan, Scan.report]
      · simp only [hscan, Scan.report, LoadReport.loaded, List.nil_append]
        omega
      · simp [hscan, Scan.report]
    · obtain ⟨hresult, hrecords⟩ := run_of_refused hrows hroute lock
      rw [hresult, hrecords, hjournal]
      exact .refused hsettled (hstaged.symm.trans hsplit) hanswer
  · have hsettled other hother := settled_of_reads hquiet hnonnegative (hfront other hother)
    obtain ⟨scan, _, hrows⟩ := scanRows_append (fun other hother => (hsettled other hother).2) {}
      (.ok (.ofText text) :: rowsOf rest)
    have hsplit : rowsOf (front ++ text :: rest) =
        rowsOf front ++ .ok (.ofText text) :: rowsOf rest := by simp [rowsOf]
    have hsettled other hother := (hsettled other hother).1
    obtain hread | ⟨field, htwice, hrow⟩ | ⟨kind, hlone, _, hrow⟩ :=
      readRow_cases hquiet hnonnegative text
    · exact absurd hread.1.reads hunread
    · rw [← hsplit, scanRows, hrow] at hrows
      obtain ⟨hresult, hrecords⟩ := run_of_unread hrows lock
      rw [hresult, hrecords]
      exact .aborted rfl hsettled field rfl htwice
    · rw [← hsplit, scanRows, hrow] at hrows
      obtain ⟨hresult, hrecords⟩ := run_of_unread hrows lock
      rw [hresult, hrecords]
      have hbroken : Accounts sink resolver (front ++ text :: rest)
          (.error (Rule.loneSurrogate kind)) (front.filterMap (remark? resolver)) :=
        .broken rfl hsettled kind hlone hlone.not_isWhole
      simpa using hbroken

end Quiet

/-- A load that goes through writes down one record for each line, and one more. -/
theorem Accounts.length_eq {sink : Sink σ} {texts : List String} {report : LoadReport}
    {journal : List Record} (haccounts : Accounts sink resolver texts (.ok report) journal) :
    (journal.length : Int) = report.scanned + 1 := by
  cases haccounts with
  | loaded hsettled hscanned =>
    have hlength := length_eq_of_settled hsettled
    simp only [List.length_append, List.length_map, List.length_singleton]
    omega

/-- A load of lines with a table of identities of which none is negative accounts for every line,
    and no line is lost. A line without a rule has one remark of its own level. A load that goes
    through tells of every rule after that, and gives a summary; its records are one more than the
    lines. One that a line ends has one record of that instead, unless surrogates stand alone in the
    line and it is refused for them. -/
theorem load_accounts {table : List (String × Int)} (htable : ∀ row ∈ table, 0 ≤ row.2) {ι : Type}
    [DecidableEq ι] (thread : ι) (sink : Sink σ) (texts : List String) (state : σ) :
    (∃ logged, load ({} : Lock ι) thread sink (.ofTable table) (rowsOf texts) state =
        .ok ({}, logged)) ∧
      ∀ (lock after : Lock ι) logged,
        load lock thread sink (.ofTable table) (rowsOf texts) state = .ok (after, logged) →
          Accounts sink (.ofTable table) texts logged.value.1.result logged.journal ∧
          ∀ report, logged.value.1.result = .ok report →
            (logged.journal.length : Int) = report.scanned + 1 := by
  constructor
  · obtain ⟨held, hshared⟩ := Lock.sharing_unused thread fun held : Lock ι =>
      (run sink (.ofTable table) (rowsOf texts) held).run state
    exact ⟨_, hshared⟩
  · intro lock after logged hload
    obtain ⟨failure, hstuck⟩ | ⟨held, left, hshared⟩ := lock.sharing_cases thread fun held =>
      (run sink (.ofTable table) (rowsOf texts) held).run state
    · cases hstuck.symm.trans hload
    · cases hshared.symm.trans hload
      have haccounts := accounts_run (Resolver.isQuiet_ofTable table)
        (Resolver.nonneg_ofTable htable) sink texts held state
      refine ⟨haccounts, fun report hreport => ?_⟩
      rw [hreport] at haccounts
      exact haccounts.length_eq

end Texts

/-- A line of every kind, and a rule. -/
theorem load_accounts_onMixed :
    let texts := ["# mail", "allow packagename:nope host:a", "allow host:a ipv4:1.2.3.4",
      "allow port:80", "allow packagename:mail host:b"]
    ∃ logged, load ({} : Lock Unit) () Allowlist.sink (.ofTable [("mail", 7)]) (rowsOf texts) {} =
        .ok ({}, logged) ∧
      Accounts Allowlist.sink (.ofTable [("mail", 7)]) texts logged.value.1.result
        logged.journal ∧
      logged.journal.map (·.level) = [.debug, .warning, .error, .info, .debug, .info] := by
  intro texts
  obtain ⟨_, haccounts⟩ := load_accounts (by decide : ∀ row ∈ [("mail", (7 : Int))], 0 ≤ row.2) ()
    Allowlist.sink texts {}
  refine ⟨_, rfl, (haccounts {} {} _ rfl).1, ?_⟩
  decide +kernel

end AllowPolicy.Loading
