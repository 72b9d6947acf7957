import AllowPolicy.Proofs.Rule.Host
import AllowPolicy.Proofs.Text.Lowercase

namespace AllowPolicy

theorem Text.dropTrailing_append_of_ne_nil {p : Char → Bool} {back : List Char}
    (hback : dropTrailing p back ≠ []) (front : List Char) :
    dropTrailing p (front ++ back) = front ++ dropTrailing p back := by
  unfold dropTrailing at hback ⊢
  rw [List.reverse_append, List.dropWhile_append, if_neg, List.reverse_append, List.reverse_reverse]
  rw [List.isEmpty_iff]
  exact fun hnil => hback (List.reverse_eq_nil_iff.mpr hnil)

namespace Host

open AllowPolicy.Text

/-- A name without the dots at its end. -/
def bare (name : List Char) : List Char := dropTrailing (· = '.') name

/-- The same name but for its letter case and the dots at its end. -/
def SameName (one other : List Char) : Prop := normal one = normal other

instance (one other : List Char) : Decidable (SameName one other) :=
  inferInstanceAs (Decidable (normal one = normal other))

theorem bare_cases (name : List Char) :
    (∃ dots, name = bare name ++ List.replicate dots '.') ∧ (bare name).getLast? ≠ some '.' := by
  obtain ⟨⟨ends, hname, hdots⟩, hlast⟩ := dropTrailing_cases (· = '.') name
  refine ⟨⟨ends.length, ?_⟩, fun hdot => ?_⟩
  · rw [← List.eq_replicate_of_mem fun c hc => by simpa using hdots c hc]
    exact hname
  · simpa using hlast '.' hdot

theorem bare_eq_self {name : List Char} (hwhole : name.getLast? ≠ some '.') : bare name = name := by
  refine dropTrailing_eq_self fun c hc => ?_
  rw [decide_eq_false_iff_not]
  rintro rfl
  exact hwhole hc

/-- The dots at the end may go before the letters are made small. -/
theorem normal_eq (name : List Char) : normal name = lower (bare name) := by
  obtain ⟨⟨dots, hname⟩, hlast⟩ := bare_cases name
  have hlower : lower name = lower (bare name) ++ List.replicate dots '.' := by
    conv_lhs => rw [hname]
    exact lowerFrom_append_dots [] (bare name) dots
  rw [normal, hlower, dropTrailing_append]
  · refine bare_eq_self fun hdot => hlast ?_
    exact (isMark_dot.getLast?_lowerFrom_iff [] (bare name)).mp hdot
  · intro c hc
    simpa using List.eq_of_mem_replicate hc

theorem normal_eq_lower {name : List Char} (hwhole : name.getLast? ≠ some '.') :
    normal name = lower name := by
  rw [normal_eq, bare_eq_self hwhole]

theorem lower_wildcard (name : List Char) :
    lower ('*' :: '.' :: name) = '*' :: '.' :: lower name := by
  have hmeets : meetsCased ['.', '*'] = meetsCased [] := by decide +kernel
  have hname : lowerFrom ['.', '*'] name = lower name := lowerFrom_congr hmeets name
  rw [lower, isMark_star.lowerFrom_cons, isMark_dot.lowerFrom_cons, hname]

theorem wildcard_prefix_lower_iff (name : List Char) :
    ['*', '.'] <+: lower name ↔ ['*', '.'] <+: name := by
  rw [lower, isMark_star.cons_prefix_lowerFrom_iff]
  simp only [isMark_dot.cons_prefix_lowerFrom_iff]
  constructor
  · rintro ⟨_, rfl, rest, rfl, _⟩
    exact ⟨rest, rfl⟩
  · rintro ⟨rest, rfl⟩
    exact ⟨_, rfl, rest, rfl, List.nil_prefix⟩

/-- A pattern that ends in a dot, but for the bare wildcard, matches no name at all: names are
    compared without the dots at their end. -/
theorem matchesNormal_dotted {pattern name : List Char} (hdot : pattern.getLast? = some '.')
    (hwild : pattern ≠ ['*', '.']) (hname : name.getLast? ≠ some '.') :
    matchesNormal pattern name = false := by
  unfold matchesNormal
  cases hbase : after? ['*', '.'] pattern with
  | none =>
    refine beq_eq_false_iff_ne.mpr ?_
    rintro rfl
    exact hname hdot
  | some base =>
    obtain rfl := after?_eq_some_iff.mp hbase
    have hne : base ≠ [] := by
      rintro rfl
      exact hwild rfl
    have hlast : base.getLast? = some '.' := by
      rwa [List.getLast?_append_of_ne_nil _ hne] at hdot
    rw [Bool.or_eq_false_iff, Bool.eq_false_iff, ne_eq, List.isSuffixOf_iff_suffix,
      beq_eq_false_iff_ne]
    constructor
    · rintro ⟨front, rfl⟩
      rw [List.getLast?_append_of_ne_nil _ (List.cons_ne_nil '.' base),
        List.getLast?_cons_of_ne_nil hne] at hname
      exact hname hlast
    · rintro rfl
      exact hname hlast

theorem toList_append_dotted (front back : String) :
    (front ++ "." ++ back).toList = front.toList ++ '.' :: back.toList := by
  simp only [String.toList_append, List.append_assoc]
  rfl

/-- The end of a name below another, compared after what stands before it. -/
theorem suffix_normal_below {host : List Char} (hhost : bare host ≠ []) (below : List Char) :
    '.' :: lowerFrom ('.' :: below.reverse) (bare host) <:+ normal (below ++ '.' :: host) := by
  have hbare : bare (below ++ '.' :: host) = below ++ '.' :: bare host := by
    have hsplit : below ++ '.' :: host = (below ++ ['.']) ++ host := by simp
    rw [bare, hsplit, dropTrailing_append_of_ne_nil hhost, List.append_assoc]
    rfl
  have hsuffix := lowerFrom_suffix [] below ('.' :: bare host)
  rw [List.append_nil, isMark_dot.lowerFrom_cons] at hsuffix
  rwa [normal_eq, hbare]

/-- The sigma that the host opens with is the last letter of a word that the name in front begins,
    and so becomes another small letter than in the host by itself. -/
def LosesSigma (below host : List Char) : Prop :=
  meetsCased below.reverse = true ∧ opensWithLastSigma host = true

instance (below host : List Char) : Decidable (LosesSigma below host) :=
  inferInstanceAs (Decidable (_ ∧ _))

theorem lowerFrom_below_iff (below host : List Char) :
    lowerFrom ('.' :: below.reverse) (bare host) = lower (bare host) ↔
      ¬ LosesSigma below host := by
  obtain ⟨⟨dots, hhost⟩, _⟩ := bare_cases host
  have hopens : opensWithLastSigma host = opensWithLastSigma (bare host) := by
    conv_lhs => rw [hhost]
    exact opensWithLastSigma_append (caseIgnorable_of_mem_dots dots) (bare host)
  have hmeets : meetsCased ('.' :: below.reverse) = meetsCased below.reverse := by
    rw [meetsCased_cons, if_pos (by decide)]
  unfold LosesSigma
  cases hcased : meetsCased below.reverse with
  | true =>
    rw [lowerFrom_eq_lower_iff (hmeets.trans hcased), hopens]
    simp
  | false =>
    have hnone : meetsCased ('.' :: below.reverse) = meetsCased [] := hmeets.trans hcased
    have hform : lowerFrom ('.' :: below.reverse) (bare host) = lower (bare host) :=
      lowerFrom_congr hnone (bare host)
    simpa using hform

/-- A name below another ends in the labels of a pattern, if it ends in them as they are compared
    there. -/
theorem matchesNormal_below_iff {name host : List Char} (hne : name ≠ [])
    (hwhole : name.getLast? ≠ some '.') (hsame : SameName host name) (below : List Char) :
    matchesNormal ('*' :: '.' :: lower name) (normal (below ++ '.' :: host)) = true ↔
      ¬ LosesSigma below host := by
  have hlower : lower (bare host) = lower name := by
    rw [← normal_eq, hsame, normal_eq_lower hwhole]
  have hbare : bare host ≠ [] := by
    intro hnil
    rw [hnil, lower_nil] at hlower
    exact hne ((lowerFrom_eq_nil_iff [] name).mp hlower.symm)
  have hends := suffix_normal_below hbare below
  have hlength : (lowerFrom ('.' :: below.reverse) (bare host)).length = (lower name).length := by
    rw [← hlower]
    exact length_lowerFrom _ _ _
  rw [← lowerFrom_below_iff, hlower, matchesNormal_wildcard, labels_suffix_iff]
  constructor
  -- Both ends of the host are as long as the pattern, and so they are equal if both are ends.
  · rintro (hwhole | hsuffix)
    · have hle := hends.length_le
      rw [hwhole, List.length_cons] at hle
      omega
    · have hsame := List.suffix_of_suffix_length_le hends hsuffix (by simp [hlength])
      exact (List.cons_eq_cons.mp (hsame.eq_of_length (by simp [hlength]))).2
  · intro hform
    exact .inr (hform ▸ hends)

/-- A rule for a name without a dot at its end matches that name, in any letter case and with any
    dots behind it. The wildcard of the name matches these too, and what is below them, but for a
    name that loses its sigma there. A rule for a name with a dot at its end matches none
    of them. -/
theorem isMatch_own_iff (name host : String) (hne : name ≠ "")
    (hplain : ¬ ['*', '.'] <+: name.toList) (hsame : SameName host.toList name.toList) :
    (isMatch name host = true ↔ name.toList.getLast? ≠ some '.') ∧
      (isMatch ("*." ++ name) host = true ↔ name.toList.getLast? ≠ some '.') ∧
      ∀ below : String, isMatch ("*." ++ name) (below ++ "." ++ host) = true ↔
        name.toList.getLast? ≠ some '.' ∧ ¬ LosesSigma below.toList host.toList := by
  have hwild : lower ("*." ++ name).toList = '*' :: '.' :: lower name.toList := by
    rw [String.toList_append]
    exact lower_wildcard name.toList
  have hchars : name.toList ≠ [] := by simpa using hne
  unfold isMatch
  simp only [hwild, toList_append_dotted]
  by_cases hwhole : name.toList.getLast? = some '.'
  · have hlower : (lower name.toList).getLast? = some '.' :=
      (isMark_dot.getLast?_lowerFrom_iff [] name.toList).mpr hwhole
    have hnil : lower name.toList ≠ [] := (lowerFrom_eq_nil_iff [] name.toList).not.mpr hchars
    have hbase : ('*' :: '.' :: lower name.toList).getLast? = some '.' := by
      rwa [List.getLast?_cons_of_ne_nil (List.cons_ne_nil _ _), List.getLast?_cons_of_ne_nil hnil]
    have hnone (host : List Char) :
        matchesNormal ('*' :: '.' :: lower name.toList) (normal host) = false :=
      matchesNormal_dotted hbase (by simpa using hnil) (normal_cases host).2
    have hown := matchesNormal_dotted hlower
      (fun hstar => hplain ((wildcard_prefix_lower_iff _).mp (hstar ▸ List.prefix_rfl)))
      (normal_cases host.toList).2
    simp [hwhole, hnone, hown]
  · have hnormal : normal host.toList = lower name.toList :=
      hsame.trans (normal_eq_lower hwhole)
    have hown : matchesNormal (lower name.toList) (normal host.toList) = true :=
      (matchesNormal_exact ((wildcard_prefix_lower_iff _).not.mpr hplain) _).mpr hnormal
    have hbase : matchesNormal ('*' :: '.' :: lower name.toList) (normal host.toList) = true :=
      (matchesNormal_wildcard _ _).mpr (hnormal ▸ List.suffix_rfl)
    refine ⟨iff_of_true hown hwhole, iff_of_true hbase hwhole, fun below => ?_⟩
    rw [matchesNormal_below_iff hchars hwhole hsame]
    exact (and_iff_right hwhole).symm

/-- A name and its like in capitals with dots behind it, and a name below that. -/
theorem isMatch_own_iff_capitals :
    isMatch "a.Gr" "A.GR.." = true ∧ isMatch "*.a.Gr" "A.GR.." = true ∧
      isMatch "*.a.Gr" "Σ.A.GR.." = true := by
  obtain ⟨hown, hbase, hbelow⟩ :=
    isMatch_own_iff "a.Gr" "A.GR.." (by decide) (by decide) (by decide)
  exact ⟨hown.mpr (by decide), hbase.mpr (by decide), (hbelow "Σ").mpr (by decide +kernel)⟩

/-- A rule for a name with a dot at its end does not match that name, nor does its wildcard; and the
    wildcard of a sigma does not match what is below it. -/
theorem exists_not_own :
    (∃ name : String, name ≠ "" ∧ ¬ ['*', '.'] <+: name.toList ∧ isMatch name name = false ∧
        isMatch ("*." ++ name) name = false ∧ isMatch ("*." ++ name) ("b" ++ "." ++ name) = false) ∧
      ∃ name below : String, name ≠ "" ∧ ¬ ['*', '.'] <+: name.toList ∧ below ≠ "" ∧
        name.toList.getLast? ≠ some '.' ∧ isMatch ("*." ++ name) (below ++ "." ++ name) = false :=
  ⟨⟨"a.", by decide⟩, ⟨"Σ", "a", by decide +kernel⟩⟩

end Host

end AllowPolicy
