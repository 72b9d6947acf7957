import AllowPolicy.Proofs.RuleLine.Grammar
import Mathlib.Data.List.Perm.Basic

namespace AllowPolicy

namespace RuleLine

/-- Both say the same, each thing as often as the other, whatever the order. -/
structure Said.Reorders (said other : Said) : Prop where
  names : said.names.Perm other.names
  hosts : said.hosts.Perm other.hosts
  ipv4s : said.ipv4s.Perm other.ipv4s

/-- Two lines have the same fate: the same rule is loaded for them, both are skipped, or both repeat
    a field and abort the load. -/
inductive SameFate : (result other : Outcome (Option ScopedRule)) → Prop
  | rule (entry : ScopedRule) : SameFate (.ok (some entry)) (.ok (some entry))
  | skipped : SameFate (.ok none) (.ok none)
  | aborted (line line' : String) (field field' : Field) :
    SameFate (.error (.fault (Constraints.duplicate line field)))
      (.error (.fault (Constraints.duplicate line' field')))

/-- A line that does not both name an unknown application and say something twice. -/
def Orderless (resolver : Resolver) (said : Said) : Prop :=
  (∀ name ∈ said.names, (resolver.identity? name).isSome) ∨
    ∀ field, (said.values resolver field).length ≤ 1

variable {resolver : Resolver} {said other : Said}

theorem Said.Reorders.symm (hsame : said.Reorders other) : other.Reorders said :=
  ⟨hsame.names.symm, hsame.hosts.symm, hsame.ipv4s.symm⟩

theorem Said.Reorders.length_values (hsame : said.Reorders other) (resolver : Resolver)
    (field : Field) :
    (said.values resolver field).length = (other.values resolver field).length := by
  cases field with
  | uid => exact (hsame.names.filter _).length_eq
  | packageName => exact (hsame.names.filter _).length_eq
  | host => exact hsame.hosts.length_eq
  | ipv4 => exact hsame.ipv4s.length_eq

theorem Describes.reorder {entry : ScopedRule} (hentry : Describes resolver said entry)
    (hsame : said.Reorders other) : Describes resolver other entry := by
  obtain ⟨hscope, hpattern, hpriority⟩ := hentry
  refine ⟨?_, ?_, hpriority⟩
  · rcases hscope with ⟨hnames, hscope⟩ | ⟨name, hnames, hscope⟩
    · exact .inl ⟨List.perm_nil.mp (hnames ▸ hsame.names.symm), hscope⟩
    · exact .inr ⟨name, List.perm_singleton.mp (hnames ▸ hsame.names.symm), hscope⟩
  · rcases hpattern with ⟨hkind, hhosts, hipv4s⟩ | ⟨hkind, hhosts, hipv4s⟩
    · exact .inl ⟨hkind, List.perm_singleton.mp (hhosts ▸ hsame.hosts.symm),
        List.perm_nil.mp (hipv4s ▸ hsame.ipv4s.symm)⟩
    · exact .inr ⟨hkind, List.perm_nil.mp (hhosts ▸ hsame.hosts.symm),
        List.perm_singleton.mp (hipv4s ▸ hsame.ipv4s.symm)⟩

theorem Orderless.reorder (horderless : Orderless resolver said) (hsame : said.Reorders other) :
    Orderless resolver other := by
  rcases horderless with hknown | honce
  · exact .inl fun name hname => hknown name (hsame.names.mem_iff.mpr hname)
  · exact .inr fun field => hsame.length_values resolver field ▸ honce field

section Fate

variable {line : List Char} {words : List (List Char)} {text : String}

/-- What becomes of an allow line, and why. -/
theorem parse_of_allows (hnonnegative : ∀ name uid, resolver.resolve name = some uid → 0 ≤ uid)
    (hline : IsLineOf line text) (hwords : Allows line words) :
    (∃ entry, (parse resolver text).value = .ok (some entry) ∧
        Describes resolver (saidBy words) entry) ∨
      ((parse resolver text).value = .ok none ∧
        (∀ entry, ¬ Describes resolver (saidBy words) entry) ∧
          ((∃ name ∈ (saidBy words).names, resolver.identity? name = none) ∨
            Clean resolver (saidBy words))) ∨
      ∃ field, (parse resolver text).value =
          .error (.fault (Constraints.duplicate (.ofList line) field)) ∧
        2 ≤ ((saidBy words).values resolver field).length := by
  rw [value_parse]
  rcases parseStrict_of_allows resolver hline hwords with
    ⟨entry, hvalue, hdescribes⟩ | ⟨fault, hvalue, hrejects⟩ | ⟨scope, hscoped, hneg, _⟩
  · exact .inl ⟨entry, by rw [hvalue], hdescribes⟩
  · have hnone (entry : ScopedRule) : ¬ Describes resolver (saidBy words) entry :=
      fun hentry => hentry.not_rejects hrejects
    rw [hvalue]
    cases hrejects with
    | duplicate field htwice => exact .inr (.inr ⟨field, rfl, htwice⟩)
    | unknown name hnamed hnobody => exact .inr (.inl ⟨rfl, hnone, .inl ⟨name, hnamed, hnobody⟩⟩)
    | conflict hclean => exact .inr (.inl ⟨rfl, hnone, .inr hclean⟩)
    | incomplete hclean => exact .inr (.inl ⟨rfl, hnone, .inr hclean⟩)
  · exact absurd hneg (Int.not_lt.mpr (hscoped.nonneg hnonnegative))

variable (hnonnegative : ∀ name uid, resolver.resolve name = some uid → 0 ≤ uid)
  (hline : IsLineOf line text) (hwords : Allows line words)
include hnonnegative hline hwords

theorem parse_of_describes {entry : ScopedRule}
    (hentry : Describes resolver (saidBy words) entry) :
    (parse resolver text).value = .ok (some entry) := by
  rcases parse_of_allows hnonnegative hline hwords with
    ⟨other, hvalue, hother⟩ | ⟨_, hnone, _⟩ | ⟨field, _, htwice⟩
  · rw [hvalue, hother.unique hentry]
  · exact absurd hentry (hnone entry)
  · have honce := hentry.clean.once field
    omega

theorem parse_of_twice (horderless : Orderless resolver (saidBy words)) {field : Field}
    (htwice : 2 ≤ ((saidBy words).values resolver field).length) :
    ∃ field', (parse resolver text).value =
      .error (.fault (Constraints.duplicate (.ofList line) field')) := by
  rcases parse_of_allows hnonnegative hline hwords with
    ⟨entry, _, hentry⟩ | ⟨_, _, hunknown | hclean⟩ | ⟨field', hvalue, _⟩
  · have honce := hentry.clean.once field
    omega
  · obtain ⟨name, hnamed, hnobody⟩ := hunknown
    rcases horderless with hknown | honce
    · have hsome := hknown name hnamed
      simp [hnobody] at hsome
    · have honce := honce field
      omega
  · have honce := hclean.once field
    omega
  · exact ⟨field', hvalue⟩

theorem parse_of_once (hnone : ∀ entry, ¬ Describes resolver (saidBy words) entry)
    (honce : ∀ field, ((saidBy words).values resolver field).length < 2) :
    (parse resolver text).value = .ok none := by
  rcases parse_of_allows hnonnegative hline hwords with
    ⟨entry, _, hentry⟩ | ⟨hvalue, _⟩ | ⟨field, _, htwice⟩
  · exact absurd hentry (hnone entry)
  · exact hvalue
  · exact absurd htwice (Nat.not_le.mpr (honce field))

/-- Such a line has the same fate in whatever order it says what it says. -/
theorem Orderless.sameFate (horderless : Orderless resolver (saidBy words)) {line' : List Char}
    {words' : List (List Char)} {text' : String} (hline' : IsLineOf line' text')
    (hwords' : Allows line' words') (hsame : (saidBy words).Reorders (saidBy words')) :
    SameFate (parse resolver text).value (parse resolver text').value := by
  by_cases hrule : ∃ entry, Describes resolver (saidBy words) entry
  · obtain ⟨entry, hentry⟩ := hrule
    rw [parse_of_describes hnonnegative hline hwords hentry,
      parse_of_describes hnonnegative hline' hwords' (hentry.reorder hsame)]
    exact .rule entry
  have hlength := hsame.length_values resolver
  by_cases htwice : ∃ field, 2 ≤ ((saidBy words).values resolver field).length
  · obtain ⟨field, htwice⟩ := htwice
    obtain ⟨first, hfirst⟩ := parse_of_twice hnonnegative hline hwords horderless htwice
    obtain ⟨second, hsecond⟩ := parse_of_twice hnonnegative hline' hwords'
      (horderless.reorder hsame) (hlength field ▸ htwice)
    rw [hfirst, hsecond]
    exact .aborted ..
  · have honce (field : Field) : ((saidBy words).values resolver field).length < 2 :=
      Nat.not_le.mp fun hle => htwice ⟨field, hle⟩
    rw [parse_of_once hnonnegative hline hwords (fun entry hentry => hrule ⟨entry, hentry⟩) honce,
      parse_of_once hnonnegative hline' hwords'
        (fun entry hentry => hrule ⟨entry, hentry.reorder hsame.symm⟩)
        (fun field => hlength field ▸ honce field)]
    exact .skipped

end Fate

/-- The words of an allow line can stand in any other order. -/
theorem exists_rearranged {line : List Char} {words rearranged : List (List Char)}
    (hwords : Allows line words) (hperm : rearranged.Perm words) :
    ∃ text line', IsLineOf line' text ∧ Allows line' (rearranged ++ [[]]) ∧
      (saidBy words).Reorders (saidBy (rearranged ++ [[]])) := by
  obtain ⟨text, line', hline', hwords'⟩ := exists_line fun word hword =>
    ⟨hwords.solid word (hperm.subset hword), hwords.no_feed word (hperm.subset hword)⟩
  have hvalues (kind : String) :
      (valuesOf kind words).Perm (valuesOf kind (rearranged ++ [[]])) := by
    have hempty : Text.after? (kind.toList ++ [':']) [] = none := by cases kind.toList <;> rfl
    simpa [valuesOf, hempty] using (hperm.filterMap _).symm
  exact ⟨text, line', hline', hwords', hvalues _, (hvalues _).filter _, (hvalues _).filter _⟩

/-- Words with an unknown application first are skipped. -/
theorem parse_of_unknown_first {line word : List Char} {rest : List (List Char)}
    {text name : String} (hline : IsLineOf line text) (hwords : Allows line (word :: rest))
    (hword : Phrase.read word = .package name) (hnobody : resolver.identity? name = none) :
    (parse resolver text).value = .ok none := by
  have henter : (enter resolver { line := .ofList line } (Phrase.read word)).value =
      .error (.fault (packageNotFound (.ofList line) name)) := by
    rw [hword, enter_package, hnobody]
  rw [value_parse, value_parseStrict_of_allows resolver hline hwords, List.map_cons,
    enterAll_cons_error henter]
  rfl

/-- Words of which the first ones say something twice, and name known applications only, abort the
    load. -/
theorem parse_of_twice_first {line : List Char} {front rest : List (List Char)} {text : String}
    (hline : IsLineOf line text) (hwords : Allows line (front ++ rest))
    (hknown : ∀ name ∈ (saidBy front).names, (resolver.identity? name).isSome) {field : Field}
    (htwice : 2 ≤ ((saidBy front).values resolver field).length) :
    ∃ field', (parse resolver text).value =
      .error (.fault (Constraints.duplicate (.ofList line) field')) := by
  have hfront :
      ∃ field', (enterAll resolver { line := .ofList line } (front.map Phrase.read)).value =
      .error (.fault (Constraints.duplicate (.ofList line) field')) := by
    cases henter : (enterAll resolver { line := .ofList line } (front.map Phrase.read)).value with
    | ok set =>
      have hterms := (enterAll_ok henter).2.2 field
      have hlength := set.length_termsFor field
      rw [hterms, List.length_append, length_termsOf] at hlength
      omega
    | error failure =>
      rcases enterAll_error henter with ⟨name, hname, hnobody, _⟩ | ⟨field', _, rfl⟩
      · have hsome := hknown name (mem_names_saidBy.mpr hname)
        simp [hnobody] at hsome
      · exact ⟨field', rfl⟩
  obtain ⟨field', hfront⟩ := hfront
  refine ⟨field', ?_⟩
  rw [value_parse, value_parseStrict_of_allows resolver hline hwords, List.map_append,
    enterAll_append_error hfront]
  rfl

/-- Whether a word names an application without an identity of its own. -/
def namesNobody (resolver : Resolver) (word : List Char) : Bool :=
  match Phrase.read word with
  | .package name => (resolver.identity? name).isNone
  | _ => false

theorem namesNobody_iff (resolver : Resolver) (word : List Char) :
    namesNobody resolver word = true ↔
      ∃ name, Phrase.read word = .package name ∧ resolver.identity? name = none := by
  unfold namesNobody
  cases Phrase.read word <;> simp

theorem known_of_filter (resolver : Resolver) (words : List (List Char)) :
    ∀ name ∈ (saidBy (words.filter (!namesNobody resolver ·))).names,
      (resolver.identity? name).isSome := by
  intro name hname
  obtain ⟨word, hword, hread⟩ := List.mem_map.mp (mem_names_saidBy.mp hname)
  have hknown : ¬ namesNobody resolver word = true := by simpa using (List.mem_filter.mp hword).2
  rw [namesNobody_iff] at hknown
  rw [Option.isSome_iff_ne_none]
  exact fun hnobody => hknown ⟨name, hread, hnobody⟩

/-- An application without an identity of its own fixes nothing. -/
theorem length_values_filter (resolver : Resolver) (words : List (List Char)) (field : Field) :
    ((saidBy (words.filter (!namesNobody resolver ·))).values resolver field).length =
      ((saidBy words).values resolver field).length := by
  rw [← length_termsOf, ← length_termsOf, termsOf, termsOf, List.filterMap_map, List.filterMap_map,
    List.filterMap_filter]
  congr 1
  refine List.filterMap_congr fun word _ => ?_
  cases hread : Phrase.read word with
  | package name =>
    cases hidentity : resolver.identity? name with
    | none => cases field <;> simp [namesNobody, hread, hidentity, Phrase.term?]
    | some uid => simp [namesNobody, hread, hidentity]
  | _ => simp [namesNobody, hread]

/-- Of a line that names an unknown application and says something twice, one order is skipped and
    another one aborts the load. -/
theorem exists_fates {line : List Char} {words : List (List Char)} (hwords : Allows line words)
    (hmixed : ¬ Orderless resolver (saidBy words)) :
    (∃ text' line' words', IsLineOf line' text' ∧ Allows line' words' ∧
        (saidBy words).Reorders (saidBy words') ∧ (parse resolver text').value = .ok none) ∧
      ∃ text' line' words', IsLineOf line' text' ∧ Allows line' words' ∧
        (saidBy words).Reorders (saidBy words') ∧ ∃ field, (parse resolver text').value =
          .error (.fault (Constraints.duplicate (.ofList line') field)) := by
  obtain ⟨hunknown, htwice⟩ := not_or.mp hmixed
  simp only [not_forall, Nat.not_le, exists_prop] at hunknown htwice
  obtain ⟨name, hnamed, hnobody⟩ := hunknown
  rw [Option.not_isSome_iff_eq_none] at hnobody
  obtain ⟨field, htwice⟩ := htwice
  have hperm := List.filter_append_perm (namesNobody resolver) words
  constructor
  · obtain ⟨text', line', hline', hwords', hsame⟩ := exists_rearranged hwords hperm
    refine ⟨text', line', _, hline', hwords', hsame, ?_⟩
    obtain ⟨word, hword, hread⟩ := List.mem_map.mp (mem_names_saidBy.mp hnamed)
    have hmem : word ∈ words.filter (namesNobody resolver) :=
      List.mem_filter.mpr ⟨hword, (namesNobody_iff resolver word).mpr ⟨name, hread, hnobody⟩⟩
    obtain ⟨first, rest, hfirst⟩ := List.exists_cons_of_ne_nil (List.ne_nil_of_mem hmem)
    have hnobody' : namesNobody resolver first = true :=
      (List.mem_filter.mp (hfirst ▸ List.mem_cons_self : first ∈ words.filter _)).2
    obtain ⟨name', hread', hnobody'⟩ := (namesNobody_iff resolver first).mp hnobody'
    rw [hfirst, List.cons_append, List.cons_append] at hwords'
    exact parse_of_unknown_first hline' hwords' hread' hnobody'
  · obtain ⟨text', line', hline', hwords', hsame⟩ :=
      exists_rearranged hwords (List.perm_append_comm.trans hperm)
    refine ⟨text', line', _, hline', hwords', hsame, ?_⟩
    rw [List.append_assoc] at hwords'
    have hfront : 2 ≤ ((saidBy (words.filter (!namesNobody resolver ·))).values resolver
        field).length := by
      rw [length_values_filter]
      omega
    exact parse_of_twice_first hline' hwords' (known_of_filter resolver words) hfront

/-- A line has the same fate in every order of what it says exactly if it does not both name an
    unknown application and say something twice. A line with a rule has that rule in every order. -/
theorem sameFate_iff_orderless
    (hnonnegative : ∀ name uid, resolver.resolve name = some uid → 0 ≤ uid) {line : List Char}
    {words : List (List Char)} {text : String} (hline : IsLineOf line text)
    (hwords : Allows line words) :
    ((∀ text' line' words', IsLineOf line' text' → Allows line' words' →
        (saidBy words).Reorders (saidBy words') →
        SameFate (parse resolver text).value (parse resolver text').value) ↔
      (∀ name ∈ (saidBy words).names, (resolver.identity? name).isSome) ∨
        ∀ field, ((saidBy words).values resolver field).length ≤ 1) ∧
    ∀ entry, (parse resolver text).value = .ok (some entry) →
      ∀ text' line' words', IsLineOf line' text' → Allows line' words' →
        (saidBy words).Reorders (saidBy words') →
        (parse resolver text').value = .ok (some entry) := by
  refine ⟨⟨fun hsame => ?_, fun horderless text' line' words' hline' hwords' hsame => ?_⟩, ?_⟩
  · by_contra hmixed
    obtain ⟨⟨text₁, line₁, words₁, hline₁, hwords₁, hsame₁, hskipped⟩,
      text₂, line₂, words₂, hline₂, hwords₂, hsame₂, field, haborted⟩ := exists_fates hwords hmixed
    have hfirst := hsame text₁ line₁ words₁ hline₁ hwords₁ hsame₁
    have hsecond := hsame text₂ line₂ words₂ hline₂ hwords₂ hsame₂
    rw [hskipped] at hfirst
    rw [haborted] at hsecond
    generalize (parse resolver text).value = result at hfirst hsecond
    cases hfirst
    cases hsecond
  · exact Orderless.sameFate hnonnegative hline hwords horderless hline' hwords' hsame
  · intro entry hentry text' line' words' hline' hwords' hsame
    rcases parse_of_allows hnonnegative hline hwords with
      ⟨other, hvalue, hdescribes⟩ | ⟨hvalue, _⟩ | ⟨field, hvalue, _⟩
    · cases hvalue.symm.trans hentry
      exact parse_of_describes hnonnegative hline' hwords' (hdescribes.reorder hsame)
    · cases hvalue.symm.trans hentry
    · cases hvalue.symm.trans hentry

theorem sameFate_iff_orderless_onMail :
    (parse (.ofTable [("mail", 7)]) "allow host:a.com packagename:mail").value =
      .ok (some ⟨7, ⟨.domain, "a.com", 1, by decide⟩⟩) := by
  have hwords : Allows "allow packagename:mail host:a.com".toList
      ["packagename:mail".toList, "host:a.com".toList] :=
    (words?_eq_some_iff _ _).mp (by decide +kernel)
  have hwords' : Allows "allow host:a.com packagename:mail".toList
      ["host:a.com".toList, "packagename:mail".toList] :=
    (words?_eq_some_iff _ _).mp (by decide +kernel)
  refine (sameFate_iff_orderless
    (Resolver.nonneg_ofTable (by decide : ∀ row ∈ [("mail", (7 : Int))], 0 ≤ row.2))
    ((isLineOf_iff _ "allow packagename:mail host:a.com").mpr (by decide +kernel)) hwords).2 _ ?_
    _ _ _ ((isLineOf_iff _ _).mpr (by decide +kernel)) hwords' ?_
  · rfl
  · exact ⟨by decide +kernel, by decide +kernel, by decide +kernel⟩

/-- One order of these phrases is skipped, another one aborts the load. -/
theorem exists_not_sameFate :
    ∃ (resolver : Resolver) (text line words text' line' words' : _),
      (∀ name uid, resolver.resolve name = some uid → 0 ≤ uid) ∧
      IsLineOf line text ∧ Allows line words ∧ IsLineOf line' text' ∧ Allows line' words' ∧
      (saidBy words).Reorders (saidBy words') ∧
      ¬ SameFate (parse resolver text).value (parse resolver text').value := by
  have hline := (isLineOf_iff "allow packagename:nope host:a.com host:b.com".toList
    "allow packagename:nope host:a.com host:b.com").mpr (by decide +kernel)
  have hline' := (isLineOf_iff "allow host:a.com host:b.com packagename:nope".toList
    "allow host:a.com host:b.com packagename:nope").mpr (by decide +kernel)
  have hwords : Allows "allow packagename:nope host:a.com host:b.com".toList
      ["packagename:nope".toList, "host:a.com".toList, "host:b.com".toList] :=
    (words?_eq_some_iff _ _).mp (by decide +kernel)
  have hwords' : Allows "allow host:a.com host:b.com packagename:nope".toList
      (["host:a.com".toList, "host:b.com".toList] ++ ["packagename:nope".toList]) :=
    (words?_eq_some_iff _ _).mp (by decide +kernel)
  have hskipped := parse_of_unknown_first hline hwords
    (by decide +kernel : Phrase.read _ = .package "nope")
    (rfl : (Resolver.ofTable []).identity? "nope" = none)
  obtain ⟨field, haborted⟩ := parse_of_twice_first hline' hwords'
    (by decide +kernel : ∀ name ∈ _, ((Resolver.ofTable []).identity? name).isSome)
    (by decide +kernel : 2 ≤ (Said.values _ _ .host).length)
  refine ⟨.ofTable [], _, _, _, _, _, _, Resolver.nonneg_ofTable (by simp), hline, hwords, hline',
    hwords', ⟨by decide +kernel, by decide +kernel, by decide +kernel⟩, ?_⟩
  rw [hskipped, haborted]
  rintro ⟨⟩

end RuleLine

end AllowPolicy
