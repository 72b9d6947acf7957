import AllowPolicy.Proofs.RuleLine.Grammar

namespace AllowPolicy

namespace RuleLine

/-- The line carries the phrase that names this application. -/
def Names (text name : String) : Prop :=
  ∃ words, words? (trimEnd text.toList) = some words ∧
    "packagename".toList ++ ':' :: name.toList ∈ words

theorem read_packageName (name : String) :
    Phrase.read ("packagename".toList ++ ':' :: name.toList) = .package name := by
  have hfront : ':' ∉ "packagename".toList := by decide
  simp only [Phrase.read, Text.cut_append hfront]
  simp

/-- A rule that comes out of a line is the one that the words of the line describe. -/
theorem describes_of_parse [Surrogates] {resolver : Resolver} {text : String} {entry : ScopedRule}
    (hparse : (parse resolver text).value = .ok (some entry)) :
    ∃ words, words? (trimEnd text.toList) = some words ∧
      Describes resolver (saidBy words) entry := by
  have hline := (isLineOf_iff _ text).mpr (rfl : trimEnd text.toList = _)
  rw [value_parse_eq_some_iff] at hparse
  cases hwords : words? (trimEnd text.toList) with
  | none =>
    have hother := (words?_eq_none_iff _).mp hwords
    rw [value_parseStrict_of_not_allows resolver hline hother] at hparse
    cases hparse
  | some words =>
    refine ⟨words, rfl, ?_⟩
    rcases parseStrict_cases resolver hline ((words?_eq_some_iff _ words).mp hwords) with
      ⟨other, hvalue, hdescribes⟩ | ⟨fault, hvalue, _⟩ | ⟨_, _, _, hnone⟩
    · have hencodes := hvalue.symm.trans hparse
      unfold Constraints.encodable at hencodes
      split at hencodes
      · cases hencodes
        exact hdescribes
      · cases hencodes
    · cases hvalue.symm.trans hparse
    · exact absurd hparse (hnone entry)

/-- A rule whose line names an application is a rule of that application alone. -/
theorem scope_of_names [Surrogates] {resolver : Resolver} {text name : String} {entry : ScopedRule}
    (hparse : (parse resolver text).value = .ok (some entry)) (hnames : Names text name) :
    ∃ uid, resolver.resolve name = some uid ∧ uid ≠ 0 ∧ (entry.scope : Int) = uid := by
  obtain ⟨words, hwords, hdescribes⟩ := describes_of_parse hparse
  obtain ⟨others, hothers, hmem⟩ := hnames
  obtain rfl : others = words := Option.some.inj (hothers.symm.trans hwords)
  have hnamed : name ∈ (saidBy others).names :=
    mem_names_saidBy.mpr (List.mem_map.mpr ⟨_, hmem, read_packageName name⟩)
  rcases hdescribes.scope with ⟨hnone, _⟩ | ⟨only, honly, hidentity⟩
  · simp [hnone] at hnamed
  · rw [honly, List.mem_singleton] at hnamed
    subst hnamed
    obtain ⟨hresolve, hzero⟩ := (resolver.identity?_eq_some_iff name _).mp hidentity
    exact ⟨_, hresolve, hzero, rfl⟩

end RuleLine

end AllowPolicy
