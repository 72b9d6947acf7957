import AllowPolicy.Proofs.RuleLine.Line

namespace AllowPolicy

namespace Text

/-- A text is cut at its first separator. -/
theorem cut_append {sep : Char} {front : List Char} (hfront : sep ∉ front) (back : List Char) :
    cut sep (front ++ sep :: back) = (front, some back) := by
  induction front with
  | nil => simp [cut]
  | cons c rest ih =>
    obtain ⟨hc, hrest⟩ := not_or.mp (mt List.mem_cons.mpr hfront)
    simp [cut, Ne.symm hc, ih hrest]

/-- What follows a front and the first separator behind it is what the text is cut into. -/
theorem after?_append_sep {sep : Char} {front : List Char} (hfront : sep ∉ front) (s : List Char) :
    after? (front ++ [sep]) s =
      match cut sep s with
      | (other, some back) => if other = front then some back else none
      | (_, none) => none := by
  cases hafter : after? (front ++ [sep]) s with
  | some back =>
    have hs := after?_eq_some_iff.mp hafter
    rw [List.append_assoc, List.singleton_append] at hs
    rw [hs, cut_append hfront]
    simp
  | none =>
    rcases hcut : cut sep s with ⟨other, _ | back⟩
    · rfl
    · have hother : other ≠ front := by
        rintro rfl
        have hs := cut_eq_some hcut
        rw [← List.singleton_append, ← List.append_assoc] at hs
        rw [after?_eq_some_iff.mpr hs] at hafter
        cases hafter
      simp [hother]

end Text

/-- The identity of an application that has one of its own. -/
def Resolver.identity? (resolver : Resolver) (name : String) : Option Int :=
  match resolver.resolve name with
  | some uid => if uid = 0 then none else some uid
  | none => none

theorem Resolver.identity?_eq_some_iff (resolver : Resolver) (name : String) (uid : Int) :
    resolver.identity? name = some uid ↔ resolver.resolve name = some uid ∧ uid ≠ 0 := by
  unfold identity?
  cases resolver.resolve name with
  | none => simp
  | some other =>
    by_cases hzero : other = 0
    · simp [hzero, eq_comm]
    · simp only [if_neg hzero, Option.some.injEq]
      constructor
      · rintro rfl
        exact ⟨rfl, hzero⟩
      · exact And.left

/-- A table of identities that are not negative gives none that is. -/
theorem Resolver.nonneg_ofTable {table : List (String × Int)} (htable : ∀ row ∈ table, 0 ≤ row.2)
    (name : String) (uid : Int) (hresolve : (ofTable table).resolve name = some uid) : 0 ≤ uid := by
  obtain ⟨front, back, rfl, _⟩ := List.lookup_eq_some_iff.mp hresolve
  exact htable (name, uid) (List.mem_append_right front List.mem_cons_self)

namespace RuleLine

/-- What the words of a kind say, in order. -/
def valuesOf (kind : String) (words : List (List Char)) : List String :=
  words.filterMap fun word => (Text.after? (kind.toList ++ [':']) word).map String.ofList

/-- What a line says: the applications that it names, and its host and address patterns, each in
    order. -/
structure Said where
  names : List String
  hosts : List String
  ipv4s : List String

/-- What the words of a line say. A word for a pattern that has none says nothing. -/
def saidBy (words : List (List Char)) : Said where
  names := valuesOf "packagename" words
  hosts := (valuesOf "host" words).filter (· ≠ "")
  ipv4s := (valuesOf "ipv4" words).filter (· ≠ "")

/-- The characters of a pattern stand in one of the words. -/
theorem exists_word_of_pattern {words : List (List Char)} {pattern : String}
    (hpattern : pattern ∈ (saidBy words).hosts ∨ pattern ∈ (saidBy words).ipv4s) :
    ∃ word ∈ words, pattern.toList ⊆ word := by
  have hvalue {kind : String} (hmem : pattern ∈ valuesOf kind words) :
      ∃ word ∈ words, pattern.toList ⊆ word := by
    obtain ⟨word, hword, hafter⟩ := List.mem_filterMap.mp hmem
    obtain ⟨value, hvalue, rfl⟩ := Option.map_eq_some_iff.mp hafter
    refine ⟨word, hword, ?_⟩
    rw [String.toList_ofList, Text.after?_eq_some_iff.mp hvalue]
    exact List.subset_append_right _ value
  rcases hpattern with hpattern | hpattern
  · exact hvalue (List.mem_filter.mp hpattern).1
  · exact hvalue (List.mem_filter.mp hpattern).1

/-- What the words of a line say that fixes a field. An application without an identity of its own
    fixes none. -/
def Said.values (said : Said) (resolver : Resolver) : Field → List String
  | .uid | .packageName => said.names.filter fun name => (resolver.identity? name).isSome
  | .host => said.hosts
  | .ipv4 => said.ipv4s

end RuleLine

namespace Phrase

def name? : Phrase → Option String
  | .package name => some name
  | _ => none

def host? : Phrase → Option String
  | .host pattern => some pattern
  | _ => none

def ipv4? : Phrase → Option String
  | .ipv4 pattern => some pattern
  | _ => none

/-- What a phrase fixes a field to. -/
def term? (resolver : Resolver) (field : Field) : Phrase → Option Term
  | .package name =>
    match field with
    | .uid => (resolver.identity? name).map .number
    | .packageName => (resolver.identity? name).map fun _ => .text name
    | _ => none
  | .host pattern => if field = .host then some (.text pattern) else none
  | .ipv4 pattern => if field = .ipv4 then some (.text pattern) else none
  | .other => none

private theorem filter_ofList (value : List Char) :
    (some (String.ofList value)).filter (· ≠ "") =
      if value = [] then none else some (String.ofList value) := by
  have hempty : String.ofList value = "" ↔ value = [] := by
    rw [← String.toList_inj]
    simp
  by_cases hvalue : value = []
  · simp [hvalue]
  · simp [hempty, hvalue]

theorem name?_read (word : List Char) :
    (read word).name? = (Text.after? ("packagename".toList ++ [':']) word).map String.ofList := by
  rw [Text.after?_append_sep (by decide), read]
  rcases Text.cut ':' word with ⟨kind, _ | value⟩
  · rfl
  · by_cases hkind : kind = "packagename".toList
    · simp only [hkind, if_true]
      rfl
    · simp only [hkind, if_false]
      split_ifs <;> rfl

theorem host?_read (word : List Char) :
    (read word).host? =
      ((Text.after? ("host".toList ++ [':']) word).map String.ofList).filter (· ≠ "") := by
  rw [Text.after?_append_sep (by decide), read]
  rcases Text.cut ':' word with ⟨kind, _ | value⟩
  · rfl
  · by_cases hkind : kind = "host".toList
    · have hname : ¬ "host".toList = "packagename".toList := by decide
      have hipv4 : ¬ "host".toList = "ipv4".toList := by decide
      subst hkind
      simp only [hname, hipv4, if_false, if_true, true_and, false_and, Option.map_some,
        filter_ofList]
      by_cases hvalue : value = [] <;> simp [hvalue, host?]
    · simp only [hkind, if_false, false_and]
      split_ifs <;> rfl

theorem ipv4?_read (word : List Char) :
    (read word).ipv4? =
      ((Text.after? ("ipv4".toList ++ [':']) word).map String.ofList).filter (· ≠ "") := by
  rw [Text.after?_append_sep (by decide), read]
  rcases Text.cut ':' word with ⟨kind, _ | value⟩
  · rfl
  · by_cases hkind : kind = "ipv4".toList
    · have hname : ¬ "ipv4".toList = "packagename".toList := by decide
      have hhost : ¬ "ipv4".toList = "host".toList := by decide
      subst hkind
      simp only [hname, hhost, if_false, if_true, true_and, false_and, Option.map_some,
        filter_ofList]
      by_cases hvalue : value = [] <;> simp [hvalue, ipv4?]
    · simp only [hkind, if_false, false_and]
      split_ifs <;> rfl

end Phrase

namespace RuleLine

/-- What phrases fix a field to, one after another. -/
def termsOf (resolver : Resolver) (field : Field) (phrases : List Phrase) : List Term :=
  phrases.filterMap (·.term? resolver field)

theorem names_saidBy (words : List (List Char)) :
    (saidBy words).names = (words.map Phrase.read).filterMap Phrase.name? := by
  simp only [saidBy, valuesOf, List.filterMap_map]
  exact List.filterMap_congr fun word _ => (Phrase.name?_read word).symm

theorem hosts_saidBy (words : List (List Char)) :
    (saidBy words).hosts = (words.map Phrase.read).filterMap Phrase.host? := by
  simp only [saidBy, valuesOf, List.filterMap_map, List.filter_filterMap]
  exact List.filterMap_congr fun word _ => (Phrase.host?_read word).symm

theorem ipv4s_saidBy (words : List (List Char)) :
    (saidBy words).ipv4s = (words.map Phrase.read).filterMap Phrase.ipv4? := by
  simp only [saidBy, valuesOf, List.filterMap_map, List.filter_filterMap]
  exact List.filterMap_congr fun word _ => (Phrase.ipv4?_read word).symm

theorem mem_names_saidBy {words : List (List Char)} {name : String} :
    name ∈ (saidBy words).names ↔ .package name ∈ words.map Phrase.read := by
  rw [names_saidBy, List.mem_filterMap]
  constructor
  · rintro ⟨phrase, hphrase, hname⟩
    cases phrase with
    | package other =>
      obtain rfl := Option.some.inj hname
      exact hphrase
    | host pattern => cases hname
    | ipv4 pattern => cases hname
    | other => cases hname
  · exact fun hphrase => ⟨_, hphrase, rfl⟩

theorem termsOf_host (resolver : Resolver) (words : List (List Char)) :
    termsOf resolver .host (words.map Phrase.read) = (saidBy words).hosts.map .text := by
  rw [hosts_saidBy, List.map_filterMap, termsOf]
  congr 1
  funext phrase
  cases phrase <;> rfl

theorem termsOf_ipv4 (resolver : Resolver) (words : List (List Char)) :
    termsOf resolver .ipv4 (words.map Phrase.read) = (saidBy words).ipv4s.map .text := by
  rw [ipv4s_saidBy, List.map_filterMap, termsOf]
  congr 1
  funext phrase
  cases phrase <;> rfl

theorem termsOf_uid (resolver : Resolver) (words : List (List Char)) :
    termsOf resolver .uid (words.map Phrase.read) =
      ((saidBy words).names.filterMap resolver.identity?).map .number := by
  rw [names_saidBy, List.filterMap_filterMap, List.map_filterMap, termsOf]
  congr 1
  funext phrase
  cases phrase <;> rfl

/-- As many terms for a field as words that fix it. -/
theorem length_termsOf (resolver : Resolver) (words : List (List Char)) (field : Field) :
    (termsOf resolver field (words.map Phrase.read)).length =
      ((saidBy words).values resolver field).length := by
  have hnames : ((saidBy words).names.filterMap resolver.identity?).length =
      ((saidBy words).names.filter fun name => (resolver.identity? name).isSome).length := by
    rw [List.length_filterMap_eq_countP, List.countP_eq_length_filter]
  cases field with
  | host => rw [termsOf_host, List.length_map, Said.values]
  | ipv4 => rw [termsOf_ipv4, List.length_map, Said.values]
  | uid => rw [termsOf_uid, List.length_map, hnames, Said.values]
  | packageName =>
    have hsame : (termsOf resolver .packageName (words.map Phrase.read)).length =
        (termsOf resolver .uid (words.map Phrase.read)).length := by
      simp only [termsOf, List.length_filterMap_eq_countP]
      congr 1
      funext phrase
      cases phrase <;> simp [Phrase.term?]
    rw [hsame, termsOf_uid, List.length_map, hnames, Said.values]

end RuleLine

end AllowPolicy
