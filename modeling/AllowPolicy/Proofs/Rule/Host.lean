import AllowPolicy.Proofs.RuleLine.Line
import AllowPolicy.Rule.Host

namespace AllowPolicy

theorem Text.intercalate_append (sep : List Char) {front back : List (List Char)}
    (hfront : front ≠ []) (hback : back ≠ []) :
    sep.intercalate (front ++ back) = sep.intercalate front ++ sep ++ sep.intercalate back := by
  induction front with
  | nil => exact absurd rfl hfront
  | cons first rest ih =>
    rw [List.cons_append,
      List.intercalate_cons_of_ne_nil (List.append_ne_nil_of_right_ne_nil rest hback)]
    cases rest with
    | nil => simp
    | cons second others =>
      rw [ih (List.cons_ne_nil second others), List.intercalate_cons_cons]
      simp only [List.append_assoc]

namespace Host

open AllowPolicy.Text

/-- The labels of a name: what stands between its dots, empty labels too. -/
def labels (name : List Char) : List (List Char) := name.splitOn '.'

theorem labels_append (front back : List Char) :
    labels (front ++ '.' :: back) = labels front ++ labels back := by
  simp only [labels, List.splitOn_eq_splitOnP]
  exact List.splitOnP_append_cons front back (beq_self_eq_true '.')

theorem labels_ne_nil (name : List Char) : labels name ≠ [] := List.splitOn_ne_nil '.' name

/-- A name is its labels with dots between them. -/
theorem intercalate_labels (name : List Char) : ['.'].intercalate (labels name) = name :=
  List.intercalate_splitOn '.'

/-- The last labels of a name are those of `base` if the name is `base`, or ends in a dot and
    `base`. -/
theorem labels_suffix_iff {base name : List Char} :
    labels base <:+ labels name ↔ name = base ∨ ('.' :: base) <:+ name := by
  constructor
  · rintro ⟨front, hname⟩
    have hspelt := intercalate_labels name
    rw [← hname] at hspelt
    cases front with
    | nil =>
      rw [List.nil_append, intercalate_labels] at hspelt
      exact .inl hspelt.symm
    | cons label rest =>
      rw [intercalate_append ['.'] (List.cons_ne_nil label rest) (labels_ne_nil base),
        intercalate_labels, List.append_assoc] at hspelt
      exact .inr ⟨_, hspelt⟩
  · rintro (rfl | ⟨front, rfl⟩)
    · exact List.suffix_rfl
    · rw [labels_append]
      exact List.suffix_append _ _

/-- What a host name is compared as: its lower case without the dots at the end. -/
theorem normal_cases (host : List Char) :
    (∃ dots, lower host = normal host ++ List.replicate dots '.') ∧
      (normal host).getLast? ≠ some '.' := by
  obtain ⟨⟨ends, hhost, hdots⟩, hlast⟩ := dropTrailing_cases (· = '.') (lower host)
  refine ⟨⟨ends.length, ?_⟩, fun hdot => ?_⟩
  · rw [← List.eq_replicate_of_mem fun c hc => by simpa using hdots c hc]
    exact hhost
  · simpa using hlast '.' hdot

theorem matchesNormal_wildcard (base name : List Char) :
    matchesNormal ('*' :: '.' :: base) name = true ↔ labels base <:+ labels name := by
  have hrest : after? ['*', '.'] ('*' :: '.' :: base) = some base := after?_eq_some_iff.mpr rfl
  rw [labels_suffix_iff, matchesNormal, hrest, Bool.or_eq_true, List.isSuffixOf_iff_suffix,
    beq_iff_eq, or_comm]

theorem matchesNormal_exact {pattern : List Char} (hexact : ¬ ['*', '.'] <+: pattern)
    (name : List Char) : matchesNormal pattern name = true ↔ name = pattern := by
  have hrest : after? ['*', '.'] pattern = none := by
    cases hafter : after? ['*', '.'] pattern with
    | none => rfl
    | some base => exact absurd ⟨base, (after?_eq_some_iff.mp hafter).symm⟩ hexact
  rw [matchesNormal, hrest, beq_iff_eq]

/-- A name that ends in `base` only within a label does not have its labels at the end. -/
theorem not_labels_suffix {base front : List Char} {c : Char} (hc : c ≠ '.') :
    ¬ labels base <:+ labels (front ++ c :: base) := by
  rw [labels_suffix_iff]
  rintro (hsame | hdot)
  · have hlength := congrArg List.length hsame
    simp only [List.length_append, List.length_cons] at hlength
    omega
  · have hends := List.suffix_of_suffix_length_le hdot (List.suffix_append front (c :: base))
      (Nat.le_refl _)
    have hsame := hends.eq_of_length rfl
    exact hc (List.cons_eq_cons.mp hsame).1.symm

/-- A wildcard `*.b` matches the names whose last labels are the labels of `b`, `b` itself among
    them, and any other pattern matches itself only. So a wildcard does not match a name that ends
    in `b` within a label, and a pattern without a wildcard matches no name below its own. -/
theorem isMatch_iff_labels (pattern host : String) :
    let name := normal host.toList
    ((∃ dots, lower host.toList = name ++ List.replicate dots '.') ∧ name.getLast? ≠ some '.') ∧
      (isMatch pattern host = true ↔
        match lower pattern.toList with
        | '*' :: '.' :: base => labels base <:+ labels name
        | plain => name = plain) ∧
      (∀ base front c, lower pattern.toList = '*' :: '.' :: base → name = front ++ c :: base →
        c ≠ '.' → isMatch pattern host = false) ∧
      (∀ below, ¬ ['*', '.'] <+: lower pattern.toList →
        name = below ++ '.' :: lower pattern.toList → isMatch pattern host = false) := by
  intro name
  have hmatch : isMatch pattern host = matchesNormal (lower pattern.toList) name := rfl
  generalize lower pattern.toList = shape at hmatch
  refine ⟨normal_cases host.toList, ?_, ?_, ?_⟩
  · rw [hmatch]
    split
    · exact matchesNormal_wildcard _ name
    · next hplain =>
      refine matchesNormal_exact ?_ name
      rintro ⟨base, rfl⟩
      exact hplain base rfl
  · intro base front c hshape hname hc
    rw [hmatch, hshape, Bool.eq_false_iff, ne_eq, matchesNormal_wildcard, hname]
    exact not_labels_suffix hc
  · intro below hexact hname
    rw [hmatch, Bool.eq_false_iff, ne_eq, matchesNormal_exact hexact, hname]
    intro hsame
    have hlength := congrArg List.length hsame
    simp only [List.length_append, List.length_cons] at hlength
    omega

/-- A host in capitals with a dot at its end, below the domain of a wildcard; a longer label that
    ends in the same characters; and a domain that is not below itself. -/
theorem isMatch_iff_labels_wildcard :
    (isMatch "*.Example.com" "API.example.com." = true ∧
      isMatch "*.example.com" "badexample.com" = false) ∧
      isMatch "example.com" "api.example.com" = false :=
  ⟨⟨(isMatch_iff_labels "*.Example.com" "API.example.com.").2.1.mpr
        ⟨["api".toList], by decide⟩,
      (isMatch_iff_labels "*.example.com" "badexample.com").2.2.1 "example.com".toList
        "ba".toList 'd' (by decide) (by decide) (by decide)⟩,
    (isMatch_iff_labels "example.com" "api.example.com").2.2.2 "api".toList (by decide) (by decide)⟩

end Host

end AllowPolicy
