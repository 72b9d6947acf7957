import AllowPolicy.Proofs.Loading.Exact
import AllowPolicy.Proofs.Lock.Bracket
import AllowPolicy.Proofs.RuleLine.Order
import AllowPolicy.Proofs.RuleLine.Package
import AllowPolicy.Proofs.Settings.Valid

namespace AllowPolicy

namespace RuleLine

/-- Some word of the line names an application. -/
def namesAny (text : String) : Bool :=
  match words? (trimEnd text.toList) with
  | some words => !(saidBy words).names.isEmpty
  | none => false

variable {resolver : Resolver}

/-- A rule is one of every application exactly if its line names none. -/
theorem isGlobal_iff [Surrogates] {text : String} {entry : ScopedRule}
    (hparse : (parse resolver text).value = .ok (some entry)) :
    entry.scope = 0 ↔ namesAny text = false := by
  obtain ⟨words, hwords, hdescribes⟩ := describes_of_parse hparse
  have hnames : namesAny text = !(saidBy words).names.isEmpty := by rw [namesAny, hwords]
  rw [hnames]
  obtain ⟨hnone, hscope⟩ | ⟨name, hname, hidentity⟩ := hdescribes.scope
  · simpa [hnone] using hscope
  · have hzero := ((resolver.identity?_eq_some_iff name _).mp hidentity).2
    simpa [hname] using hzero

variable (hnonnegative : ∀ name uid, resolver.resolve name = some uid → 0 ≤ uid)
include hnonnegative

/-- Without negative identities a line gives a rule or none, or it repeats a field, or the pattern
    of its rule cannot be encoded. -/
theorem parse_cases [Surrogates] (text : String) :
    (∃ rule, (parse resolver text).value = .ok rule) ∨
      (∃ field, (parse resolver text).value =
        .error (.fault (Constraints.duplicate (.ofList (trimEnd text.toList)) field))) ∨
      ∃ kind, Lone resolver text kind ∧
        (parse resolver text).value = .error (Rule.loneSurrogate kind) := by
  have hline := (isLineOf_iff _ text).mpr (rfl : trimEnd text.toList = _)
  cases hwords : words? (trimEnd text.toList) with
  | none =>
    have hother := (words?_eq_none_iff _).mp hwords
    left
    refine ⟨none, ?_⟩
    rw [value_parse, value_parseStrict_of_not_allows resolver hline hother]
  | some words =>
    have hallows := (words?_eq_some_iff _ words).mp hwords
    rw [value_parse]
    rcases parseStrict_cases resolver hline hallows with
      ⟨entry, hvalue, hdescribes⟩ | ⟨fault, hvalue, hrejects⟩ | ⟨scope, hscoped, hneg, _⟩
    · unfold Constraints.encodable at hvalue
      split at hvalue
      · exact .inl ⟨some entry, by rw [hvalue]; rfl⟩
      · rename_i hpattern
        exact .inr (.inr ⟨entry.rule.kind,
          ⟨words, entry, hwords, hdescribes, rfl, Bool.eq_false_iff.mpr hpattern⟩,
          by rw [hvalue]; rfl⟩)
    · rw [hvalue]
      cases hrejects with
      | duplicate field => exact .inr (.inl ⟨field, rfl⟩)
      | unknown name => exact .inl ⟨none, rfl⟩
      | conflict => exact .inl ⟨none, rfl⟩
      | incomplete => exact .inl ⟨none, rfl⟩
    · exact absurd hneg (Int.not_lt.mpr (hscoped.nonneg hnonnegative))

end RuleLine

namespace Loading

open RuleLine

/-- The rule of a line, if it gives one. -/
def ruleOf? [Surrogates] (resolver : Resolver) (text : String) : Option ScopedRule :=
  (parse resolver text).value.toOption.join

/-- The rules of lines in order. -/
def rulesOf [Surrogates] (resolver : Resolver) (texts : List String) : List ScopedRule :=
  texts.filterMap (ruleOf? resolver)

/-- The line can be read: it gives a rule or none. -/
def Reads [Surrogates] (resolver : Resolver) (text : String) : Prop :=
  ∃ rule, (parse resolver text).value = .ok rule

/-- How a load of lines into an allowlist ends, and what it leaves there. -/
inductive Settles [Surrogates] (resolver : Resolver) (texts : List String)
    (before : Allowlist) : Outcome LoadReport → Allowlist → Prop
  /-- Every rule of a line is at the end of its bucket, and the bucket of every application has got
      those of the lines that name no application. -/
  | loaded {report : LoadReport} {after : Allowlist} (reads : ∀ text ∈ texts, Reads resolver text)
      (scanned : report.scanned = texts.length)
      (loaded : report.loaded = (rulesOf resolver texts).length)
      (extended : before.Extended after (rulesOf resolver texts))
      (global : after.global = before.global ++
        (rulesOf resolver (texts.filter (!namesAny ·))).map (·.rule)) :
      Settles resolver texts before (.ok report) after
  /-- The first line that cannot be read repeats a field, and nothing is loaded. -/
  | repeated {front rest : List String} {text : String} (split : texts = front ++ text :: rest)
      (reads : ∀ other ∈ front, Reads resolver other) (field : Field)
      (twice : (parse resolver text).value =
        .error (.fault (Constraints.duplicate (.ofList (trimEnd text.toList)) field))) :
      Settles resolver texts before
        (.error (.fault (Constraints.duplicate (.ofList (trimEnd text.toList)) field))) before
  /-- Surrogates stand alone in the pattern of the first line that cannot be read, and nothing is
      loaded. -/
  | refused {front rest : List String} {text : String} (split : texts = front ++ text :: rest)
      (reads : ∀ other ∈ front, Reads resolver other) (kind : Rule.Kind)
      (lone : Lone resolver text kind) :
      Settles resolver texts before (.error (Rule.loneSurrogate kind)) before

variable {σ : Type} {resolver : Resolver}

/-- The row that a line makes. -/
def rowsOf (texts : List String) : Rows := texts.map fun text => .ok (.ofText text)

theorem ruleOf?_eq [Surrogates] {text : String} {rule : Option ScopedRule}
    (hparse : (parse resolver text).value = .ok rule) : ruleOf? resolver text = rule := by
  rw [ruleOf?, hparse]
  rfl

theorem allRead_rowsOf [Surrogates] {texts : List String}
    (hreads : ∀ text ∈ texts, Reads resolver text) :
    AllRead resolver (rowsOf texts) (texts.map (ruleOf? resolver)) := by
  rw [AllRead, rowsOf, List.forall₂_map_left_iff, List.forall₂_map_right_iff, List.forall₂_same]
  intro text htext
  obtain ⟨rule, hparse⟩ := hreads text htext
  rw [readRow_ofText, hparse, ruleOf?_eq hparse]

/-- A load ends with the first row that cannot be read. -/
theorem outcome_of_first_unread [Surrogates] {front rest : Rows} {row : Outcome Row}
    {failure : Failure}
    (hfront : ∀ other ∈ front, ∃ rule, (readRow resolver other).value = .ok rule)
    (hrow : (readRow resolver row).value = .error failure) (sink : Sink σ) (state : σ) :
    outcome sink resolver (front ++ row :: rest) state = (.error failure, state) := by
  unfold outcome
  generalize ({} : Scan) = scan
  induction front generalizing scan with
  | nil => exact finish_cons_error hrow sink scan rest state
  | cons head front ih =>
    obtain ⟨rule, hhead⟩ := hfront head List.mem_cons_self
    rw [List.cons_append, finish_cons_ok hhead]
    exact ih (fun other hother => hfront other (List.mem_cons_of_mem head hother)) _

theorem filter_rulesOf [Surrogates] (texts : List String) :
    (rulesOf resolver texts).filter (·.scope = 0) =
      rulesOf resolver (texts.filter (!namesAny ·)) := by
  rw [rulesOf, rulesOf, List.filter_filterMap, List.filterMap_filter]
  refine List.filterMap_congr fun text _ => ?_
  cases hrule : ruleOf? resolver text with
  | none => simp
  | some entry =>
    have hparse : (parse resolver text).value = .ok (some entry) := by
      unfold ruleOf? at hrule
      cases hvalue : (parse resolver text).value with
      | error failure =>
        rw [hvalue] at hrule
        cases hrule
      | ok rule =>
        rw [hvalue] at hrule
        exact congrArg _ hrule
    have hglobal := isGlobal_iff hparse
    by_cases hnames : namesAny text = false
    · simp [Option.filter, hnames, hglobal.mpr hnames]
    · have hown : ¬ entry.scope = 0 := fun hzero => hnames (hglobal.mp hzero)
      simp [Option.filter, hnames, hown]

theorem settles_of_reads [Surrogates] {texts : List String}
    (hreads : ∀ text ∈ texts, Reads resolver text) (before : Allowlist) :
    Settles resolver texts before (outcome Allowlist.sink resolver (rowsOf texts) before).1
      (outcome Allowlist.sink resolver (rowsOf texts) before).2 := by
  have hrules : (texts.map (ruleOf? resolver)).reduceOption = rulesOf resolver texts := by
    rw [List.reduceOption, List.filterMap_map]
    rfl
  rw [outcome_sink_of_allRead (allRead_rowsOf hreads), foldl_add, hrules]
  have hextended := before.extended_foldl_place (rulesOf resolver texts)
  have hkinds := (rulesOf resolver texts).length_eq_length_filter_add (·.isGlobal)
  refine .loaded hreads ?_ ?_ hextended ?_
  · simp [Scan.report]
  · simp only [Scan.report, LoadReport.loaded, List.nil_append]
    omega
  · rw [hextended.global, filter_rulesOf]

theorem reads_iff [Surrogates] (text : String) :
    Reads resolver text ↔ (parse resolver text).value.isOk = true := by
  unfold Reads
  cases (parse resolver text).value <;> simp [Except.isOk, Except.toBool]

/-- The lines can all be read, or there is a first one that cannot. -/
theorem reads_or_first [Surrogates] (resolver : Resolver) (texts : List String) :
    (∀ text ∈ texts, Reads resolver text) ∨
      ∃ front text rest, texts = front ++ text :: rest ∧
        (∀ other ∈ front, Reads resolver other) ∧ ¬ Reads resolver text := by
  simp only [reads_iff]
  cases hfind : texts.find? fun text => !(parse resolver text).value.isOk with
  | none => exact .inl (by simpa using List.find?_eq_none.mp hfind)
  | some text =>
    obtain ⟨hunread, front, rest, hsplit, hfront⟩ := List.find?_eq_some_iff_append.mp hfind
    exact .inr ⟨front, text, rest, hsplit, by simpa using hfront, by simpa using hunread⟩

theorem settles_outcome [Surrogates]
    (hnonnegative : ∀ name uid, resolver.resolve name = some uid → 0 ≤ uid)
    (texts : List String) (before : Allowlist) :
    Settles resolver texts before (outcome Allowlist.sink resolver (rowsOf texts) before).1
      (outcome Allowlist.sink resolver (rowsOf texts) before).2 := by
  obtain hreads | ⟨front, text, rest, rfl, hfront, hunread⟩ := reads_or_first resolver texts
  · exact settles_of_reads hreads before
  · have hrows : rowsOf (front ++ text :: rest) =
        rowsOf front ++ .ok (.ofText text) :: rowsOf rest := by simp [rowsOf]
    have hbefore : ∀ row ∈ rowsOf front, ∃ rule, (readRow resolver row).value = .ok rule := by
      intro row hrow
      obtain ⟨other, hother, rfl⟩ := List.mem_map.mp hrow
      obtain ⟨rule, hparse⟩ := hfront other hother
      exact ⟨rule, (readRow_ofText resolver other).trans hparse⟩
    rw [hrows]
    obtain hread | ⟨field, htwice⟩ | ⟨kind, hlone, hrefused⟩ := parse_cases hnonnegative text
    · exact absurd hread hunread
    · rw [outcome_of_first_unread hbefore ((readRow_ofText resolver text).trans htwice)]
      exact .repeated rfl hfront field htwice
    · rw [outcome_of_first_unread hbefore ((readRow_ofText resolver text).trans hrefused)]
      exact .refused rfl hfront kind hlone

/-- A load that gets its permit ends as its outcome does. -/
theorem result_of_load [Surrogates] {ι : Type} [DecidableEq ι] {lock after : Lock ι} {thread : ι}
    {sink : Sink σ} {rows : Rows} {state : σ} {logged : Logged (Ending ι × σ)}
    (hload : load lock thread sink resolver rows state = .ok (after, logged)) :
    (logged.value.1.result, logged.value.2) = outcome sink resolver rows state := by
  unfold load at hload
  obtain ⟨failure, hstuck⟩ | ⟨held, left, hshared⟩ :=
    lock.sharing_cases thread fun held => (run sink resolver rows held).run state
  · rw [hstuck] at hload
    cases hload
  · rw [hshared] at hload
    cases hload
    obtain ⟨count, hrun⟩ := run_run sink resolver rows held state
    rw [hrun]

/-- With settings that data describes, and accounts without a negative identity, every line gives a
    rule or none, or it repeats a field, unless it holds lone surrogates: one that has some in the
    pattern of its rule is refused for that, and no other is. A line that names an application gives
    a rule of one identity above zero only. A load of lines is never stuck at a lock that nobody
    uses, and wherever it gets its permit it puts every rule in its bucket, or it ends with the
    first line that repeats a field, or is refused, and loads nothing. -/
theorem reads_or_repeats [Surrogates] {v : Value} {settings : Settings}
    (hread : Settings.ofValue v = .ok settings)
    {accounts : List (String × Int)} (haccounts : ∀ account ∈ accounts, 0 ≤ account.2) {ι : Type}
    [DecidableEq ι] (thread : ι) :
    (∀ text, Reads (settings.resolver accounts) text ∨
      (∃ field, (parse (settings.resolver accounts) text).value =
        .error (.fault (Constraints.duplicate (.ofList (trimEnd text.toList)) field))) ∨
      Text.isWhole text = false ∧ ∃ kind, Lone (settings.resolver accounts) text kind ∧
        (parse (settings.resolver accounts) text).value = .error (Rule.loneSurrogate kind)) ∧
    (∀ text name entry, Names text name →
      (parse (settings.resolver accounts) text).value = .ok (some entry) →
        ∃ uid, (settings.resolver accounts).resolve name = some uid ∧ 0 < uid ∧
          (entry.scope : Int) = uid) ∧
    ∀ texts before,
      (∃ logged, load ({} : Lock ι) thread Allowlist.sink (settings.resolver accounts)
        (rowsOf texts) before = .ok ({}, logged)) ∧
      ∀ (lock after : Lock ι) logged,
        load lock thread Allowlist.sink (settings.resolver accounts) (rowsOf texts) before =
          .ok (after, logged) →
        Settles (settings.resolver accounts) texts before logged.value.1.result logged.value.2 := by
  have hnonnegative := (Settings.valid_of_ofValue hread).nonneg haccounts
  refine ⟨fun text => ?_, fun text name entry hnames hparse => ?_, fun texts before => ?_⟩
  · exact (parse_cases hnonnegative text).imp_right (.imp_right fun ⟨kind, hlone, hrefused⟩ =>
      ⟨hlone.not_isWhole, kind, hlone, hrefused⟩)
  · obtain ⟨uid, hresolve, hzero, hscope⟩ := scope_of_names hparse hnames
    have hnonneg := hnonnegative name uid hresolve
    exact ⟨uid, hresolve, by omega, hscope⟩
  · constructor
    · obtain ⟨held, hshared⟩ := Lock.sharing_unused thread fun held : Lock ι =>
        (run Allowlist.sink (settings.resolver accounts) (rowsOf texts) held).run before
      exact ⟨_, hshared⟩
    · intro lock after logged hload
      have hsettles := settles_outcome hnonnegative texts before
      rw [← result_of_load hload] at hsettles
      exact hsettles

/-- A load with the accounts of a system, on which `root` has identity zero. -/
theorem reads_or_repeats_onSystem :
    ∃ settings, Settings.ofValue (.record [("resolver", .text "system")]) = .ok settings ∧
      (∀ account ∈ [("root", 0), ("mail", (7 : Int))], 0 ≤ account.2) ∧
      ∃ logged report after, load ({} : Lock Unit) () Allowlist.sink
          (settings.resolver [("root", 0), ("mail", 7)])
          (rowsOf ["allow packagename:root host:a", "allow packagename:mail host:b",
            "allow host:c"]) {} = .ok ({}, logged) ∧
        logged.value.1.result = .ok report ∧ logged.value.2 = after ∧ report.loaded = 2 ∧
        after.global.map (·.pattern) = ["c"] := by
  have hread : Settings.ofValue (.record [("resolver", .text "system")]) =
      .ok { source := .system } := by
    simp only [Settings.ofValue, Settings.readSections, Fields.ofValue_record, Checked.andThen,
      Fields.optional_record]
    rfl
  have haccounts : ∀ account ∈ [("root", 0), ("mail", (7 : Int))], 0 ≤ account.2 := by decide
  obtain ⟨_, _, hloads⟩ := reads_or_repeats hread haccounts ()
  obtain ⟨⟨logged, hload⟩, hsettles⟩ := hloads
    ["allow packagename:root host:a", "allow packagename:mail host:b", "allow host:c"] {}
  have hends := hsettles {} {} logged hload
  refine ⟨_, hread, haccounts, logged, ?_⟩
  generalize logged.value.1.result = result at hends
  generalize logged.value.2 = after at hends
  cases hends with
  | loaded _ _ hloaded _ hglobal =>
    refine ⟨_, _, hload, rfl, rfl, ?_, ?_⟩
    · rw [hloaded]
      decide +kernel
    · rw [hglobal]
      decide +kernel
  | @repeated front rest text hsplit _ field htwice =>
    have hall : ∀ text ∈ ["allow packagename:root host:a", "allow packagename:mail host:b",
        "allow host:c"], (parse (({ source := .system } : Settings).resolver
          [("root", 0), ("mail", 7)]) text).value.isOk = true := by decide +kernel
    have hok := hall text (by rw [hsplit]; simp)
    rw [htwice] at hok
    cases hok
  | refused _ _ kind hlone =>
    have hbroken := hlone.not_isWhole
    rw [Text.isWhole_usual] at hbroken
    cases hbroken

end Loading

end AllowPolicy
