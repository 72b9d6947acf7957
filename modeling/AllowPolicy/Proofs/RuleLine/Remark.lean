import AllowPolicy.Proofs.RuleLine.Order

namespace AllowPolicy

/-- Nothing is written down when a name is looked up. -/
def Resolver.IsQuiet (resolver : Resolver) : Prop := ∀ name, resolver.notes name = []

theorem Resolver.isQuiet_ofTable (table : List (String × Int)) : (ofTable table).IsQuiet :=
  fun _ => rfl

namespace RuleLine

variable {resolver : Resolver}

/-- What there is to remark on a line that gives no rule. It is no allow line, it names an unknown
    application, it has both kinds of pattern, or it has none. -/
def remark? (resolver : Resolver) (text : String) : Option Record :=
  match words? (trimEnd text.toList) with
  | none => some { level := .debug, text := "Not a rule: " ++ text }
  | some words =>
    let said := saidBy words
    match said.names.find? fun name => (resolver.identity? name).isNone with
    | some name => some { level := .warning, text := "package " ++ name ++ " not found" }
    | none =>
      if said.hosts ≠ [] ∧ said.ipv4s ≠ [] then
        some { level := .error
               text := "Rule string " ++ text ++ " has invalid combination of types" }
      else if said.hosts = [] ∧ said.ipv4s = [] then
        some { level := .info
               text := "Rule string " ++ text ++ " rejected: " ++ "no host or ipv4 constraint" }
      else none

/-- What becomes of a line, and what is written down on the way: nothing for a rule, for a field
    that is repeated or for a pattern that cannot be encoded, and else one remark. -/
inductive Fate [Surrogates] (resolver : Resolver) (text : String) :
    Outcome (Option ScopedRule) → List Record → Prop
  | rule (entry : ScopedRule) (plain : remark? resolver text = none) :
    Fate resolver text (.ok (some entry)) []
  | skipped (record : Record) (remark : remark? resolver text = some record) :
    Fate resolver text (.ok none) [record]
  | repeated (field : Field) :
    Fate resolver text
      (.error (.fault (Constraints.duplicate (.ofList (trimEnd text.toList)) field))) []
  | refused (kind : Rule.Kind) (lone : Lone resolver text kind) :
    Fate resolver text (.error (Rule.loneSurrogate kind)) []

theorem packageNotFound_inj {line name other : String}
    (hsame : Failure.fault (packageNotFound line name) = .fault (packageNotFound line other)) :
    name = other := by
  have hdetails := congrArg Fault.details (Failure.fault.inj hsame)
  exact congrArg (fun details => (details.lookup Fault.Detail.packageName).getD "") hdetails

/-- The name that is not found is the first one that is unknown. -/
theorem find?_names_of_enterAll {set : Constraints} {phrases : List Phrase} {name : String}
    (henter : (enterAll resolver set phrases).value =
      .error (.fault (packageNotFound set.line name))) :
    (phrases.filterMap Phrase.name?).find? (fun name => (resolver.identity? name).isNone) =
      some name := by
  induction phrases generalizing set with
  | nil => cases henter
  | cons phrase rest ih =>
    cases hphrase : (enter resolver set phrase).value with
    | error failure =>
      rw [enterAll_cons_error hphrase] at henter
      cases henter
      rcases enter_error hphrase with ⟨other, rfl, hnobody, hsame⟩ | ⟨field, _, hsame⟩
      · obtain rfl := packageNotFound_inj hsame
        simp [Phrase.name?, hnobody]
      · cases hsame
    | ok mid =>
      rw [enterAll_cons_ok hphrase] at henter
      obtain ⟨hline, hknown, _⟩ := enter_ok hphrase
      rw [← hline] at henter
      have hrest := ih henter
      cases phrase with
      | package other =>
        have hsome := hknown other rfl
        simpa [Phrase.name?, ← Option.not_isSome, hsome] using hrest
      | _ => exact hrest

theorem Clean.find?_names {said : Said} (hclean : Clean resolver said) :
    said.names.find? (fun name => (resolver.identity? name).isNone) = none := by
  rw [List.find?_eq_none]
  intro name hname
  rw [← Option.not_isSome, hclean.known name hname]
  decide

section Journal

variable (hquiet : resolver.IsQuiet)
include hquiet

theorem journal_enter (set : Constraints) (phrase : Phrase) :
    (enter resolver set phrase).journal = [] := by
  cases phrase with
  | package name =>
    simp only [enter, Logged.journal_bind, Resolver.lookup, hquiet name, List.nil_append]
    cases resolver.resolve name with
    | none => rfl
    | some uid => by_cases hzero : uid = 0 <;> simp [hzero]
  | host pattern => rfl
  | ipv4 pattern => rfl
  | other => rfl

theorem journal_enterAll (set : Constraints) (phrases : List Phrase) :
    (enterAll resolver set phrases).journal = [] := by
  induction phrases generalizing set with
  | nil => rfl
  | cons phrase rest ih =>
    simp only [enterAll, Logged.journal_bind, journal_enter hquiet, List.nil_append]
    cases (enter resolver set phrase).value with
    | error failure => rfl
    | ok mid => exact ih mid

theorem journal_parseStrict [Surrogates] {text : String} {words : List (List Char)}
    (hwords : words? (trimEnd text.toList) = some words) :
    (parseStrict resolver text).journal = [] := by
  have hconstraints : constraints resolver text = ⟨
      (enterAll resolver { line := .ofList (trimEnd text.toList) }
        (words.map Phrase.read)).value.map some, []⟩ := by
    have hjournal := journal_enterAll hquiet { line := .ofList (trimEnd text.toList) }
      (words.map Phrase.read)
    simp only [constraints, hwords]
    generalize enterAll resolver { line := .ofList (trimEnd text.toList) }
      (words.map Phrase.read) = entered at hjournal ⊢
    obtain ⟨value, journal⟩ := entered
    cases hjournal
    rfl
  unfold parseStrict
  rw [hconstraints]
  rcases (enterAll resolver { line := .ofList (trimEnd text.toList) }
    (words.map Phrase.read)).value with failure | set
  · rfl
  · rfl

/-- One remark is written down for a line that is passed over. -/
theorem journal_parse [Surrogates] {text : String} {words : List (List Char)}
    (hwords : words? (trimEnd text.toList) = some words) :
    (parse resolver text).journal =
      match (parseStrict resolver text).value with
      | .error (.fault fault) => if fault.kind.isA .rejected then [rejection text fault] else []
      | _ => [] := by
  simp only [parse, Logged.journal_bind, journal_parseStrict hquiet hwords, List.nil_append]
  rcases (parseStrict resolver text).value with (fault | _ | _ | _ | _ | _) | rule <;>
    first
    | rfl
    | by_cases hrejected : fault.kind.isA .rejected <;> simp [hrejected]

end Journal

theorem fate_of_foreign [Surrogates] {text : String}
    (hwords : words? (trimEnd text.toList) = none) :
    Fate resolver text (parse resolver text).value (parse resolver text).journal := by
  have hparse : parse resolver text =
      ⟨.ok none, [{ level := .debug, text := "Not a rule: " ++ text }]⟩ := by
    simp only [parse, parseStrict, constraints, hwords]
    rfl
  rw [hparse]
  exact .skipped _ (by rw [remark?, hwords])

/-- Every line has its fate under a resolver that is quiet and has no negative identity. -/
theorem fate [Surrogates] (hquiet : resolver.IsQuiet)
    (hnonnegative : ∀ name uid, resolver.resolve name = some uid → 0 ≤ uid) (text : String) :
    Fate resolver text (parse resolver text).value (parse resolver text).journal := by
  have hline := (isLineOf_iff _ text).mpr (rfl : trimEnd text.toList = _)
  cases hwords : words? (trimEnd text.toList) with
  | none => exact fate_of_foreign hwords
  | some words =>
    have hallows := (words?_eq_some_iff _ words).mp hwords
    rw [journal_parse hquiet hwords, value_parse]
    rcases parseStrict_cases resolver hline hallows with
      ⟨entry, hvalue, hdescribes⟩ | ⟨fault, hvalue, hrejects⟩ | ⟨scope, hscoped, hneg, _⟩
    · unfold Constraints.encodable at hvalue
      split at hvalue
      · rw [hvalue]
        refine .rule entry ?_
        simp only [remark?, hwords, hdescribes.clean.find?_names]
        rcases hdescribes.pattern with ⟨_, hhosts, hipv4s⟩ | ⟨_, hhosts, hipv4s⟩ <;>
          simp [hhosts, hipv4s]
      · rename_i hpattern
        rw [hvalue]
        exact .refused _ ⟨words, entry, hwords, hdescribes, rfl, Bool.eq_false_iff.mpr hpattern⟩
    · rw [hvalue]
      cases hrejects with
      | duplicate field htwice => exact .repeated field
      | unknown name hnamed hnobody =>
        refine .skipped _ ?_
        rw [value_parseStrict_of_allows resolver hline hallows] at hvalue
        cases henter : (enterAll resolver { line := .ofList (trimEnd text.toList) }
            (words.map Phrase.read)).value with
        | error failure =>
          rw [henter] at hvalue
          cases hvalue
          have hfirst := find?_names_of_enterAll henter
          rw [← names_saidBy] at hfirst
          simp only [remark?, hwords, hfirst]
          rfl
        | ok set =>
          have hknown := (enterAll_ok henter).2.1 name (mem_names_saidBy.mp hnamed)
          simp [hnobody] at hknown
      | conflict hclean hhosts hipv4s =>
        refine .skipped _ ?_
        simp only [remark?, hwords, hclean.find?_names, if_pos (And.intro hhosts hipv4s)]
        rfl
      | incomplete hclean hhosts hipv4s =>
        refine .skipped _ ?_
        simp only [remark?, hwords, hclean.find?_names]
        rw [if_neg fun hboth => hboth.1 hhosts, if_pos ⟨hhosts, hipv4s⟩]
        rfl
    · exact absurd hneg (Int.not_lt.mpr (hscoped.nonneg hnonnegative))

end RuleLine

end AllowPolicy
