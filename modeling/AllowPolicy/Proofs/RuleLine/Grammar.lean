import AllowPolicy.Proofs.RuleLine.Entry

namespace AllowPolicy

/-- The failure for a pattern in which surrogates stand alone. -/
def Rule.loneSurrogate (kind : Rule.Kind) : Failure := .refused (badPattern kind .stringUnicode)

/-- The rule of a pattern that is not empty, unless the pattern cannot be encoded. -/
theorem Rule.make_of_ne [Surrogates] (kind : Rule.Kind) {pattern : String} (priority : Int)
    (hpattern : pattern ≠ "") :
    Rule.make kind pattern priority =
      if Text.isWhole pattern then .ok ⟨kind, pattern, priority, hpattern⟩
      else .error (badPattern kind .stringUnicode) := by
  rw [Rule.make, dif_neg hpattern]

theorem ScopedRule.make_eq_ok_iff (scope : Int) (rule : Rule) (entry : ScopedRule) :
    ScopedRule.make scope rule = .ok entry ↔ (entry.scope : Int) = scope ∧ entry.rule = rule := by
  unfold ScopedRule.make
  by_cases hneg : scope < 0
  · rw [if_pos hneg]
    refine iff_of_false (by rintro ⟨⟩) ?_
    rintro ⟨hscope, _⟩
    omega
  · rw [if_neg hneg]
    constructor
    · rintro ⟨⟩
      exact ⟨Int.toNat_of_nonneg (by omega), rfl⟩
    · rintro ⟨rfl, rfl⟩
      rfl

namespace Constraints

theorem get?_eq_none {set : Constraints} {field : Field} (hterms : set.termsFor field = []) :
    set.get? field = none :=
  Option.toList_eq_nil_iff.mp hterms

theorem get?_eq_some {set : Constraints} {field : Field} {term : Term}
    (hterms : set.termsFor field = [term]) : set.get? field = some term :=
  Option.toList_eq_singleton_iff.mp hterms

/-- A field is fixed once at most. -/
theorem length_termsFor (set : Constraints) (field : Field) :
    (set.termsFor field).length ≤ 1 := by
  unfold termsFor
  cases set.get? field <;> simp

theorem scope_of_scopedRule [Surrogates] {scope : Int} {kind : Rule.Kind} {pattern : Term}
    {entry : ScopedRule} (hrule : scopedRule scope kind pattern = .ok entry) :
    (entry.scope : Int) = scope := by
  unfold scopedRule at hrule
  cases hmade : Rule.make kind pattern.toText Rule.defaultPriority with
  | error refusal => simp [hmade, Except.bind, Except.mapError] at hrule
  | ok rule =>
    cases hentry : ScopedRule.make scope rule with
    | error refusal => simp [hmade, hentry, Except.bind, Except.mapError] at hrule
    | ok other =>
      simp only [hmade, hentry, Except.bind, Except.mapError, Except.ok.injEq] at hrule
      exact hrule ▸ ((ScopedRule.make_eq_ok_iff ..).mp hentry).1

/-- What becomes of a rule whose pattern may be one that cannot be encoded. -/
def encodable [Surrogates] (entry : ScopedRule) : Outcome ScopedRule :=
  if Text.isWhole entry.rule.pattern then .ok entry else .error (Rule.loneSurrogate entry.rule.kind)

@[simp] theorem encodable_usual (entry : ScopedRule) : encodable entry = .ok entry := by
  simp [encodable]

/-- A pattern under a scope that is not negative gives a rule, if it can be encoded. -/
theorem scopedRule_eq [Surrogates] {scope : Int} (hscope : 0 ≤ scope) (kind : Rule.Kind)
    {pattern : String} (hpattern : pattern ≠ "") :
    scopedRule scope kind (.text pattern) =
      encodable ⟨scope.toNat, kind, pattern, Rule.defaultPriority, hpattern⟩ := by
  have htext : (Term.text pattern).toText = pattern := rfl
  rw [scopedRule, htext, Rule.make_of_ne kind _ hpattern, encodable]
  split
  · simp only [Except.bind, ScopedRule.make, if_neg (Int.not_lt.mpr hscope), Except.mapError]
  · rfl

theorem toScopedRule_eq [Surrogates] {set : Constraints} {scope : Int}
    (hscope : (set.get? .uid).getD (.number 0) = .number scope) :
    set.toScopedRule =
      match set.get? .host, set.get? .ipv4 with
      | some _, some _ => .error (.fault (conflict set.line))
      | some host, none => scopedRule scope .domain host
      | none, some ipv4 => scopedRule scope .ipv4 ipv4
      | none, none => .error (.fault (incomplete set.line)) := by
  unfold toScopedRule
  rw [hscope]
  rcases set.get? .host with _ | host <;> rcases set.get? .ipv4 with _ | ipv4 <;> rfl

theorem scope_of_toScopedRule [Surrogates] {set : Constraints} {scope : Int} {entry : ScopedRule}
    (hscope : (set.get? .uid).getD (.number 0) = .number scope)
    (hrule : set.toScopedRule = .ok entry) : (entry.scope : Int) = scope := by
  rw [toScopedRule_eq hscope] at hrule
  rcases hhost : set.get? .host with _ | host <;> rcases hipv4 : set.get? .ipv4 with _ | ipv4 <;>
    rw [hhost, hipv4] at hrule
  · cases hrule
  · exact scope_of_scopedRule hrule
  · exact scope_of_scopedRule hrule
  · cases hrule

end Constraints

namespace RuleLine

/-- The identity under which a line with these names has its rule. -/
def Scoped (resolver : Resolver) (names : List String) (scope : Int) : Prop :=
  (names = [] ∧ scope = 0) ∨ ∃ name, names = [name] ∧ resolver.identity? name = some scope

/-- The one rule that a line describes: it has one pattern, and names at most one application, which
    has an identity of its own. -/
structure Describes (resolver : Resolver) (said : Said) (entry : ScopedRule) : Prop where
  scope : Scoped resolver said.names entry.scope
  pattern :
    (entry.rule.kind = .domain ∧ said.hosts = [entry.rule.pattern] ∧ said.ipv4s = []) ∨
      (entry.rule.kind = .ipv4 ∧ said.hosts = [] ∧ said.ipv4s = [entry.rule.pattern])
  priority : entry.rule.priority = 1

/-- Nothing is said twice, and every application that is named has an identity of its own. -/
structure Clean (resolver : Resolver) (said : Said) : Prop where
  known : ∀ name ∈ said.names, (resolver.identity? name).isSome
  once : ∀ field, (said.values resolver field).length ≤ 1

/-- Why an allow line has no rule. Of a line with several faults one is reported. -/
inductive Rejects (resolver : Resolver) (line : String) (said : Said) : Fault → Prop
  | duplicate (field : Field) (twice : 2 ≤ (said.values resolver field).length) :
    Rejects resolver line said (Constraints.duplicate line field)
  | unknown (name : String) (named : name ∈ said.names)
      (nobody : resolver.identity? name = none) :
    Rejects resolver line said (packageNotFound line name)
  | conflict (clean : Clean resolver said) (hosts : said.hosts ≠ []) (ipv4s : said.ipv4s ≠ []) :
    Rejects resolver line said (Constraints.conflict line)
  | incomplete (clean : Clean resolver said) (hosts : said.hosts = []) (ipv4s : said.ipv4s = []) :
    Rejects resolver line said (Constraints.incomplete line)

variable {resolver : Resolver} {said : Said}

theorem Scoped.unique {names : List String} {scope scope' : Int}
    (hscope : Scoped resolver names scope) (hscope' : Scoped resolver names scope') :
    scope = scope' := by
  rcases hscope with ⟨rfl, rfl⟩ | ⟨name, rfl, hname⟩
  · rcases hscope' with ⟨_, rfl⟩ | ⟨_, hnames, _⟩
    · rfl
    · cases hnames
  · rcases hscope' with ⟨hnames, _⟩ | ⟨other, hnames, hother⟩
    · cases hnames
    · cases hnames
      exact Option.some.inj (hname.symm.trans hother)

theorem Scoped.nonneg (hnonnegative : ∀ name uid, resolver.resolve name = some uid → 0 ≤ uid)
    {names : List String} {scope : Int} (hscope : Scoped resolver names scope) : 0 ≤ scope := by
  rcases hscope with ⟨_, rfl⟩ | ⟨name, _, hname⟩
  · exact Int.le_refl 0
  · exact hnonnegative name scope ((resolver.identity?_eq_some_iff name scope).mp hname).1

/-- A line describes one rule at most. -/
theorem Describes.unique {entry other : ScopedRule} (hentry : Describes resolver said entry)
    (hother : Describes resolver said other) : entry = other := by
  obtain ⟨scope, ⟨kind, pattern, priority, hne⟩⟩ := entry
  obtain ⟨scope', ⟨kind', pattern', priority', hne'⟩⟩ := other
  obtain ⟨hscope, hpattern, rfl⟩ := hentry
  obtain ⟨hscope', hpattern', rfl⟩ := hother
  obtain rfl : scope = scope' := Int.ofNat_inj.mp (hscope.unique hscope')
  rcases hpattern with ⟨rfl, hhosts, hipv4s⟩ | ⟨rfl, hhosts, hipv4s⟩
  · rcases hpattern' with ⟨rfl, hhosts', _⟩ | ⟨_, hhosts', _⟩
    · cases hhosts.symm.trans hhosts'
      rfl
    · cases hhosts.symm.trans hhosts'
  · rcases hpattern' with ⟨_, hhosts', _⟩ | ⟨rfl, _, hipv4s'⟩
    · cases hhosts.symm.trans hhosts'
    · cases hipv4s.symm.trans hipv4s'
      rfl

theorem Describes.clean {entry : ScopedRule} (hentry : Describes resolver said entry) :
    Clean resolver said := by
  obtain ⟨hscope, hpattern, _⟩ := hentry
  constructor
  · intro name hname
    rcases hscope with ⟨hnames, _⟩ | ⟨other, hnames, hother⟩
    · simp [hnames] at hname
    · rw [hnames, List.mem_singleton] at hname
      simp [hname, hother]
  · intro field
    have hnames : said.names.length ≤ 1 := by
      rcases hscope with ⟨hnames, _⟩ | ⟨other, hnames, _⟩ <;> simp [hnames]
    have hknown := Nat.le_trans (List.length_filter_le
      (fun name => (resolver.identity? name).isSome) said.names) hnames
    cases field with
    | uid => exact hknown
    | packageName => exact hknown
    | host => rcases hpattern with ⟨_, hhosts, _⟩ | ⟨_, hhosts, _⟩ <;> simp [Said.values, hhosts]
    | ipv4 => rcases hpattern with ⟨_, _, hipv4s⟩ | ⟨_, _, hipv4s⟩ <;> simp [Said.values, hipv4s]

/-- A line that describes a rule is not rejected. -/
theorem Describes.not_rejects {entry : ScopedRule} (hentry : Describes resolver said entry)
    {line : String} {fault : Fault} : ¬ Rejects resolver line said fault := by
  rintro (⟨field, htwice⟩ | ⟨name, hnamed, hnobody⟩ | ⟨_, hhosts, hipv4s⟩ | ⟨_, hhosts, hipv4s⟩)
  · have honce := hentry.clean.once field
    omega
  · have hknown := hentry.clean.known name hnamed
    simp [hnobody] at hknown
  · rcases hentry.pattern with ⟨_, _, hnone⟩ | ⟨_, hnone, _⟩
    · exact hipv4s hnone
    · exact hhosts hnone
  · rcases hentry.pattern with ⟨_, hsome, _⟩ | ⟨_, _, hsome⟩
    · rw [hhosts] at hsome
      cases hsome
    · rw [hipv4s] at hsome
      cases hsome

theorem eq_nil_or_singleton {α : Type} {values : List α} (honce : values.length ≤ 1) :
    values = [] ∨ ∃ value, values = [value] := by
  rcases values with _ | ⟨value, _ | ⟨next, rest⟩⟩
  · exact .inl rfl
  · exact .inr ⟨value, rfl⟩
  · simp at honce

/-- The scope of the rule of a line that names known applications only. -/
theorem exists_scoped {set : Constraints} (hclean : Clean resolver said)
    (huid : set.termsFor .uid = (said.names.filterMap resolver.identity?).map .number) :
    ∃ scope, Scoped resolver said.names scope ∧
      (set.get? .uid).getD (.number 0) = .number scope := by
  have hall : said.names.filter (fun name => (resolver.identity? name).isSome) = said.names :=
    List.filter_eq_self.mpr hclean.known
  have honce : said.names.length ≤ 1 := by
    have hlength := hclean.once .uid
    rwa [Said.values, hall] at hlength
  rcases eq_nil_or_singleton honce with hnames | ⟨name, hnames⟩
  · rw [hnames] at huid ⊢
    exact ⟨0, .inl ⟨rfl, rfl⟩, by rw [Constraints.get?_eq_none huid]; rfl⟩
  · obtain ⟨scope, hscope⟩ := Option.isSome_iff_exists.mp
      (hclean.known name (by simp [hnames]))
    rw [hnames, List.filterMap_cons_some hscope] at huid
    rw [hnames]
    exact ⟨scope, .inr ⟨name, rfl, hscope⟩, by rw [Constraints.get?_eq_some huid]; rfl⟩

theorem exists_described [Surrogates] {scope : Int} {kind : Rule.Kind} {pattern : String}
    (hscoped : Scoped resolver said.names scope) (hnonneg : 0 ≤ scope) (hpattern : pattern ≠ "")
    (hsaid : kind = .domain ∧ said.hosts = [pattern] ∧ said.ipv4s = [] ∨
      kind = .ipv4 ∧ said.hosts = [] ∧ said.ipv4s = [pattern]) :
    ∃ entry, Constraints.scopedRule scope kind (.text pattern) = Constraints.encodable entry ∧
      Describes resolver said entry := by
  refine ⟨_, Constraints.scopedRule_eq hnonneg kind hpattern, ?_, hsaid, rfl⟩
  rwa [Int.toNat_of_nonneg hnonneg]

/-- What a set of fields comes to that holds all that a clean line says. Under a negative identity
    it comes to no rule. -/
theorem toScopedRule_cases [Surrogates] {set : Constraints} (hclean : Clean resolver said)
    (hnonempty : ∀ pattern, pattern ∈ said.hosts ∨ pattern ∈ said.ipv4s → pattern ≠ "")
    (huid : set.termsFor .uid = (said.names.filterMap resolver.identity?).map .number)
    (hhost : set.termsFor .host = said.hosts.map .text)
    (hipv4 : set.termsFor .ipv4 = said.ipv4s.map .text) :
    (∃ entry, set.toScopedRule = Constraints.encodable entry ∧ Describes resolver said entry) ∨
      (∃ fault, set.toScopedRule = .error (.fault fault) ∧ Rejects resolver set.line said fault) ∨
      ∃ scope, Scoped resolver said.names scope ∧ scope < 0 ∧
        ∀ entry, set.toScopedRule ≠ .ok entry := by
  obtain ⟨scope, hscoped, hscope⟩ := exists_scoped hclean huid
  have hrule := Constraints.toScopedRule_eq hscope
  by_cases hneg : scope < 0
  · refine .inr (.inr ⟨scope, hscoped, hneg, fun entry hentry => ?_⟩)
    have hentry := Constraints.scope_of_toScopedRule hscope hentry
    omega
  have hhosts : said.hosts.length ≤ 1 := hclean.once .host
  have hipv4s : said.ipv4s.length ≤ 1 := hclean.once .ipv4
  have hnonneg := Int.not_lt.mp hneg
  rcases eq_nil_or_singleton hhosts with hfirst | ⟨host, hfirst⟩ <;>
    rcases eq_nil_or_singleton hipv4s with hsecond | ⟨ipv4, hsecond⟩ <;>
    rw [hfirst] at hhost <;> rw [hsecond] at hipv4
  · rw [Constraints.get?_eq_none hhost, Constraints.get?_eq_none hipv4] at hrule
    exact .inr (.inl ⟨_, hrule, .incomplete hclean hfirst hsecond⟩)
  · rw [Constraints.get?_eq_none hhost, Constraints.get?_eq_some hipv4] at hrule
    obtain ⟨entry, hentry, hdescribes⟩ := exists_described hscoped hnonneg
      (hnonempty ipv4 (.inr (by simp [hsecond]))) (.inr ⟨rfl, hfirst, hsecond⟩)
    exact .inl ⟨entry, hrule.trans hentry, hdescribes⟩
  · rw [Constraints.get?_eq_some hhost, Constraints.get?_eq_none hipv4] at hrule
    obtain ⟨entry, hentry, hdescribes⟩ := exists_described hscoped hnonneg
      (hnonempty host (.inl (by simp [hfirst]))) (.inl ⟨rfl, hfirst, hsecond⟩)
    exact .inl ⟨entry, hrule.trans hentry, hdescribes⟩
  · rw [Constraints.get?_eq_some hhost, Constraints.get?_eq_some hipv4] at hrule
    exact .inr (.inl ⟨_, hrule, .conflict hclean (by simp [hfirst]) (by simp [hsecond])⟩)

theorem value_parseStrict_of_not_allows [Surrogates] {line : List Char} {text : String}
    (resolver : Resolver)
    (hline : IsLineOf line text) (hother : ¬ "allow ".toList <+: line ∨ '\n' ∈ line) :
    (parseStrict resolver text).value = .ok none := by
  have hnone := (words?_eq_none_iff line).mpr hother
  rw [← (isLineOf_iff line text).mp hline] at hnone
  simp only [parseStrict, constraints, Logged.value_bind, hnone, Logged.value_pure]

theorem value_parseStrict_of_allows [Surrogates] {line : List Char} {words : List (List Char)}
    {text : String}
    (resolver : Resolver) (hline : IsLineOf line text) (hwords : Allows line words) :
    (parseStrict resolver text).value =
      match (enterAll resolver { line := .ofList line } (words.map Phrase.read)).value with
      | .error failure => .error failure
      | .ok set => set.toScopedRule.map some := by
  have hsome := (words?_eq_some_iff line words).mpr hwords
  rw [← (isLineOf_iff line text).mp hline] at hsome ⊢
  simp only [parseStrict, constraints, Logged.value_bind, hsome, Logged.value_pure]
  rcases (enterAll resolver { line := .ofList (trimEnd text.toList) }
    (words.map Phrase.read)).value with failure | set <;> rfl

/-- A line that is merely rejected counts as one without a rule. -/
theorem value_parse [Surrogates] (resolver : Resolver) (text : String) :
    (parse resolver text).value =
      match (parseStrict resolver text).value with
      | .error (.fault fault) =>
        if fault.kind.isA .rejected then .ok none else .error (.fault fault)
      | other => other := by
  simp only [parse, Logged.value_bind]
  rcases (parseStrict resolver text).value with (fault | _ | _ | _ | _ | _) | rule <;>
    first
    | rfl
    | by_cases hrejected : fault.kind.isA .rejected <;> simp [hrejected]

theorem value_parse_eq_some_iff [Surrogates] (resolver : Resolver) (text : String)
    (entry : ScopedRule) :
    (parse resolver text).value = .ok (some entry) ↔
      (parseStrict resolver text).value = .ok (some entry) := by
  rw [value_parse]
  cases (parseStrict resolver text).value with
  | ok rule => rfl
  | error failure =>
    cases failure with
    | fault fault => by_cases hrejected : fault.kind.isA .rejected <;> simp [hrejected]
    | _ => rfl

theorem nonempty_of_mem_saidBy {words : List (List Char)} {pattern : String}
    (hpattern : pattern ∈ (saidBy words).hosts ∨ pattern ∈ (saidBy words).ipv4s) :
    pattern ≠ "" := by
  rcases hpattern with hpattern | hpattern
  · simpa using (List.mem_filter.mp hpattern).2
  · simpa using (List.mem_filter.mp hpattern).2

/-- What an allow line comes to. -/
theorem parseStrict_cases [Surrogates] {line : List Char} {words : List (List Char)} {text : String}
    (resolver : Resolver) (hline : IsLineOf line text) (hwords : Allows line words) :
    (∃ entry, (parseStrict resolver text).value = (Constraints.encodable entry).map some ∧
        Describes resolver (saidBy words) entry) ∨
      (∃ fault, (parseStrict resolver text).value = .error (.fault fault) ∧
        Rejects resolver (.ofList line) (saidBy words) fault) ∨
      ∃ scope, Scoped resolver (saidBy words).names scope ∧ scope < 0 ∧
        ∀ entry, (parseStrict resolver text).value ≠ .ok (some entry) := by
  rw [value_parseStrict_of_allows resolver hline hwords]
  cases henter : (enterAll resolver { line := .ofList line } (words.map Phrase.read)).value with
  | error failure =>
    rcases enterAll_error henter with ⟨name, hname, hnobody, rfl⟩ | ⟨field, htwice, rfl⟩
    · exact .inr (.inl ⟨_, rfl, .unknown name (mem_names_saidBy.mpr hname) hnobody⟩)
    · refine .inr (.inl ⟨_, rfl, .duplicate field ?_⟩)
      rw [← length_termsOf]
      exact Nat.le_trans htwice (Nat.le_of_eq (Nat.zero_add _))
  | ok set =>
    obtain ⟨hset, hknown, hterms⟩ := enterAll_ok henter
    have hfields (field : Field) :
        set.termsFor field = termsOf resolver field (words.map Phrase.read) := hterms field
    have hclean : Clean resolver (saidBy words) := by
      refine ⟨fun name hname => hknown name (mem_names_saidBy.mp hname), fun field => ?_⟩
      rw [← length_termsOf, ← hfields]
      exact set.length_termsFor field
    rcases toScopedRule_cases hclean (fun _ => nonempty_of_mem_saidBy)
      ((hfields .uid).trans (termsOf_uid resolver words))
      ((hfields .host).trans (termsOf_host resolver words))
      ((hfields .ipv4).trans (termsOf_ipv4 resolver words)) with
      ⟨entry, hentry, hdescribes⟩ | ⟨fault, hfault, hrejects⟩ | ⟨scope, hscoped, hneg, hnone⟩
    · exact .inl ⟨entry, by simp only [hentry], hdescribes⟩
    · rw [hset] at hrejects
      exact .inr (.inl ⟨fault, by simp only [hfault]; rfl, hrejects⟩)
    · refine .inr (.inr ⟨scope, hscoped, hneg, fun entry hentry => ?_⟩)
      cases hrule : set.toScopedRule with
      | error failure => simp [hrule, Except.map] at hentry
      | ok other => exact hnone other hrule

/-- What an allow line comes to, where every pattern can be encoded. -/
theorem parseStrict_of_allows {line : List Char} {words : List (List Char)} {text : String}
    (resolver : Resolver) (hline : IsLineOf line text) (hwords : Allows line words) :
    (∃ entry, (parseStrict resolver text).value = .ok (some entry) ∧
        Describes resolver (saidBy words) entry) ∨
      (∃ fault, (parseStrict resolver text).value = .error (.fault fault) ∧
        Rejects resolver (.ofList line) (saidBy words) fault) ∨
      ∃ scope, Scoped resolver (saidBy words).names scope ∧ scope < 0 ∧
        ∀ entry, (parseStrict resolver text).value ≠ .ok (some entry) := by
  have hcases := parseStrict_cases resolver hline hwords
  simp only [Constraints.encodable_usual] at hcases
  exact hcases

theorem Describes.pattern_mem {entry : ScopedRule} (hentry : Describes resolver said entry) :
    entry.rule.pattern ∈ said.hosts ∨ entry.rule.pattern ∈ said.ipv4s := by
  rcases hentry.pattern with ⟨_, hhosts, _⟩ | ⟨_, _, hipv4s⟩
  · exact .inl (hhosts ▸ List.mem_singleton_self _)
  · exact .inr (hipv4s ▸ List.mem_singleton_self _)

/-- In a text that can be encoded, so can the pattern of the rule that it describes. -/
theorem Describes.isWhole [Surrogates] {line : List Char} {words : List (List Char)} {text : String}
    (hline : IsLineOf line text) (hwords : Allows line words) {entry : ScopedRule}
    (hentry : Describes resolver (saidBy words) entry) (hwhole : Text.isWhole text = true) :
    Text.isWhole entry.rule.pattern = true := by
  obtain ⟨word, hword, hpattern⟩ := exists_word_of_pattern hentry.pattern_mem
  obtain ⟨⟨ends, htext, _⟩, _⟩ := hline
  refine Text.isWhole_of_subset (fun c hc => ?_) hwhole
  rw [htext]
  exact List.mem_append_left ends (hwords.subset word hword (hpattern hc))

/-- The text describes a rule of this kind, and surrogates stand alone in its pattern. -/
def Lone [Surrogates] (resolver : Resolver) (text : String) (kind : Rule.Kind) : Prop :=
  ∃ words entry, words? (trimEnd text.toList) = some words ∧
    Describes resolver (saidBy words) entry ∧ entry.rule.kind = kind ∧
    Text.isWhole entry.rule.pattern = false

/-- Then they do so in the text. -/
theorem Lone.not_isWhole [Surrogates] {text : String} {kind : Rule.Kind}
    (hlone : Lone resolver text kind) : Text.isWhole text = false := by
  obtain ⟨words, entry, hwords, hentry, _, hpattern⟩ := hlone
  have hline := (isLineOf_iff _ text).mpr (rfl : trimEnd text.toList = _)
  rw [Bool.eq_false_iff]
  intro hwhole
  rw [hentry.isWhole hline ((words?_eq_some_iff _ words).mp hwords) hwhole] at hpattern
  cases hpattern

/-- What an allow line comes to: to a rule exactly if it describes one whose pattern can be encoded,
    and to that one; to a refusal of the pattern if it cannot; and else the line is rejected. -/
structure Exact [Surrogates] (resolver : Resolver) (line text : String) (said : Said) : Prop where
  rule : ∀ entry, (parseStrict resolver text).value = .ok (some entry) ↔
    Describes resolver said entry ∧ Text.isWhole entry.rule.pattern = true
  refused : ∀ entry, Describes resolver said entry → Text.isWhole entry.rule.pattern = false →
    (parseStrict resolver text).value = .error (Rule.loneSurrogate entry.rule.kind)
  rejected : (∀ entry, ¬ Describes resolver said entry) →
    ∃ fault, (parseStrict resolver text).value = .error (.fault fault) ∧
      Rejects resolver line said fault
  /-- In a text without lone surrogates there is no pattern to be refused. -/
  whole : Text.isWhole text = true →
    ∀ entry, Describes resolver said entry → Text.isWhole entry.rule.pattern = true

theorem exact_of_describes [Surrogates] {line : String} {text : String} {entry : ScopedRule}
    (hvalue : (parseStrict resolver text).value = (Constraints.encodable entry).map some)
    (hdescribes : Describes resolver said entry)
    (hwhole : Text.isWhole text = true → Text.isWhole entry.rule.pattern = true) :
    Exact resolver line text said := by
  unfold Constraints.encodable at hvalue
  cases hpattern : Text.isWhole entry.rule.pattern with
  | true =>
    rw [hpattern] at hvalue
    refine ⟨fun other => ?_, fun other hother hlone => ?_, fun hnone => ?_,
      fun _ other hother => ?_⟩
    · rw [hvalue]
      constructor
      · rintro ⟨⟩
        exact ⟨hdescribes, hpattern⟩
      · rintro ⟨hother, _⟩
        rw [hdescribes.unique hother]
        rfl
    · rw [← hdescribes.unique hother, hpattern] at hlone
      cases hlone
    · exact absurd hdescribes (hnone entry)
    · rwa [← hdescribes.unique hother]
  | false =>
    rw [hpattern] at hvalue
    refine ⟨fun other => ?_, fun other hother _ => ?_, fun hnone => ?_,
      fun htext other hother => ?_⟩
    · rw [hvalue]
      refine iff_of_false (by rintro ⟨⟩) ?_
      rintro ⟨hother, hencodes⟩
      rw [← hdescribes.unique hother, hpattern] at hencodes
      cases hencodes
    · rw [hvalue, ← hdescribes.unique hother]
      rfl
    · exact absurd hdescribes (hnone entry)
    · rw [← hdescribes.unique hother]
      exact hwhole htext

theorem exact_of_rejects [Surrogates] {line text : String} {fault : Fault}
    (hvalue : (parseStrict resolver text).value = .error (.fault fault))
    (hrejects : Rejects resolver line said fault) : Exact resolver line text said := by
  have hnone (entry : ScopedRule) : ¬ Describes resolver said entry :=
    fun hentry => hentry.not_rejects hrejects
  refine ⟨fun entry => ?_, fun entry hentry _ => absurd hentry (hnone entry),
    fun _ => ⟨fault, hvalue, hrejects⟩, fun _ entry hentry => absurd hentry (hnone entry)⟩
  rw [hvalue]
  exact iff_of_false (by rintro ⟨⟩) fun hboth => hnone entry hboth.1

/-- A line that is no allow line comes to nothing. Of the others exactly those come to a rule that
    describe one, and they come to that one, unless its pattern cannot be encoded; the rest is
    rejected. -/
theorem parseStrict_exact [Surrogates] {resolver : Resolver}
    (hnonnegative : ∀ name uid, resolver.resolve name = some uid → 0 ≤ uid) (text : String) :
    ∃ line, IsLineOf line text ∧
      ((parseStrict resolver text).value = .ok none ↔
        ¬ "allow ".toList <+: line ∨ '\n' ∈ line) ∧
      ("allow ".toList <+: line → '\n' ∉ line →
        ∃ words, Allows line words ∧ Exact resolver (.ofList line) text (saidBy words)) := by
  refine ⟨trimEnd text.toList, (isLineOf_iff _ text).mpr rfl, ?_⟩
  have hline := (isLineOf_iff _ text).mpr (rfl : trimEnd text.toList = _)
  cases hwords : words? (trimEnd text.toList) with
  | none =>
    have hother := (words?_eq_none_iff _).mp hwords
    refine ⟨iff_of_true (value_parseStrict_of_not_allows resolver hline hother) hother, ?_⟩
    intro hfront hsingle
    rcases hother with hnot | hfeed
    · exact absurd hfront hnot
    · exact absurd hfeed hsingle
  | some words =>
    have hallows := (words?_eq_some_iff _ words).mp hwords
    have hallow : ¬ (¬ "allow ".toList <+: trimEnd text.toList ∨ '\n' ∈ trimEnd text.toList) := by
      rw [← words?_eq_none_iff, hwords]
      exact Option.some_ne_none words
    rcases parseStrict_cases resolver hline hallows with
      ⟨entry, hvalue, hdescribes⟩ | ⟨fault, hvalue, hrejects⟩ | ⟨scope, hscoped, hneg, _⟩
    · refine ⟨iff_of_false ?_ hallow, fun _ _ => ⟨words, hallows, ?_⟩⟩
      · rw [hvalue, Constraints.encodable]
        split <;> simp [Except.map]
      · exact exact_of_describes hvalue hdescribes (hdescribes.isWhole hline hallows)
    · refine ⟨iff_of_false ?_ hallow, fun _ _ => ⟨words, hallows, exact_of_rejects hvalue hrejects⟩⟩
      rw [hvalue]
      simp
    · exact absurd hneg (Int.not_lt.mpr (hscoped.nonneg hnonnegative))

/-- A line with carriage return and line feed behind it, with an empty word, and with a pattern that
    holds a colon. -/
theorem parseStrict_exact_onMail :
    ∃ line words, IsLineOf line "allow packagename:mail  host:a:b\r\n" ∧ Allows line words ∧
      (parseStrict (.ofTable [("mail", 7)]) "allow packagename:mail  host:a:b\r\n").value =
        .ok (some ⟨7, ⟨.domain, "a:b", 1, by decide⟩⟩) := by
  obtain ⟨line, hline, _, hallow⟩ := parseStrict_exact
    (Resolver.nonneg_ofTable (by decide : ∀ row ∈ [("mail", (7 : Int))], 0 ≤ row.2))
    "allow packagename:mail  host:a:b\r\n"
  obtain rfl : "allow packagename:mail  host:a:b".toList = line := by
    rw [← (isLineOf_iff line _).mp hline]
    decide +kernel
  obtain ⟨words, hwords, hexact⟩ := hallow (by decide) (by decide)
  obtain rfl : ["packagename:mail".toList, [], "host:a:b".toList] = words := by
    refine Option.some.inj (Eq.trans ?_ ((words?_eq_some_iff _ words).mpr hwords))
    decide +kernel
  refine ⟨_, _, hline, hwords, (hexact.rule _).mpr ⟨⟨?_, ?_, rfl⟩, Text.isWhole_usual _⟩⟩
  · exact .inr ⟨"mail", by decide +kernel, by decide +kernel⟩
  · exact .inl ⟨rfl, by decide +kernel, by decide +kernel⟩

end RuleLine

end AllowPolicy
