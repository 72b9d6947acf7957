import AllowPolicy.Proofs.Decimal.Plain
import AllowPolicy.Proofs.Yaml.Cause
import AllowPolicy.Yaml.Scalar
import Mathlib.Data.List.TakeWhile

namespace AllowPolicy.Yaml.Scalar

open Text

section Parts

/-- Underscores are left out of the parts of a text one by one. -/
theorem splitOn_filter {p : Char → Bool} {sep : Char} (hsep : p sep) (s : List Char) :
    (s.filter p).splitOn sep = (s.splitOn sep).map (·.filter p) := by
  induction s with
  | nil => simp
  | cons c rest ih =>
    obtain ⟨first, others, hsplit⟩ := List.exists_cons_of_ne_nil (List.splitOn_ne_nil sep rest)
    by_cases hc : c = sep
    · subst hc
      rw [List.filter_cons_of_pos hsep, List.splitOn_cons_eq_if_modifyHead, ih,
        List.splitOn_cons_eq_if_modifyHead]
      simp
    · have hne : (c == sep) = false := beq_false_of_ne hc
      by_cases hp : p c
      · rw [List.filter_cons_of_pos hp, List.splitOn_cons_eq_if_modifyHead, ih,
          List.splitOn_cons_eq_if_modifyHead, hsplit]
        simp [hne, hp]
      · rw [List.filter_cons_of_neg hp, ih, List.splitOn_cons_eq_if_modifyHead, hsplit]
        simp [hne, hp]

theorem splitOn_map {f : Char → Char} {sep : Char} (hsep : ∀ c, f c = sep ↔ c = sep)
    (s : List Char) :
    (s.map f).splitOn sep = (s.splitOn sep).map (·.map f) := by
  induction s with
  | nil => simp
  | cons c rest ih =>
    obtain ⟨first, others, hsplit⟩ := List.exists_cons_of_ne_nil (List.splitOn_ne_nil sep rest)
    rw [List.map_cons, List.splitOn_cons_eq_if_modifyHead, ih, List.splitOn_cons_eq_if_modifyHead,
      hsplit]
    by_cases hc : c = sep
    · have hsame := (hsep sep).mpr rfl
      simp [hc, hsame]
    · have hother : (f c == sep) = false := beq_false_of_ne (hc ∘ (hsep c).mp)
      simp [hother, hc]

/-- What follows without a separator belongs to the last part. -/
theorem splitOn_append {sep : Char} {back : List Char} (hback : sep ∉ back) (front : List Char) :
    ∃ init last, front.splitOn sep = init ++ [last] ∧
      (front ++ back).splitOn sep = init ++ [last ++ back] := by
  induction front with
  | nil => exact ⟨[], [], List.splitOn_nil sep, List.splitOn_eq_singleton hback⟩
  | cons c rest ih =>
    obtain ⟨init, last, hrest, hlonger⟩ := ih
    rw [List.cons_append, List.splitOn_cons_eq_if_modifyHead, List.splitOn_cons_eq_if_modifyHead,
      hrest, hlonger]
    split
    · exact ⟨[] :: init, last, rfl, rfl⟩
    · cases init with
      | nil => exact ⟨[], c :: last, rfl, rfl⟩
      | cons first more => exact ⟨(c :: first) :: more, last, rfl, rfl⟩

end Parts

theorem failed_mapM {α β : Type} {f : α → Except Problem β} {parts : List α} {problem : Problem}
    (hfailed : parts.mapM f = .error problem) : ∃ part ∈ parts, f part = .error problem := by
  induction parts with
  | nil => cases hfailed
  | cons part rest ih =>
    rw [List.mapM_cons] at hfailed
    obtain hfailed | ⟨_, _, hfailed⟩ := eq_error_of_bind hfailed
    · exact ⟨part, List.mem_cons_self, hfailed⟩
    · obtain hfailed | ⟨_, _, hfailed⟩ := eq_error_of_bind hfailed
      · obtain ⟨found, hmem, hfound⟩ := ih hfailed
        exact ⟨found, List.mem_cons_of_mem _ hmem, hfound⟩
      · cases hfailed

theorem length_of_mapM {α β : Type} {f : α → Except Problem β} {parts : List α} {values : List β}
    (hok : parts.mapM f = .ok values) : values.length = parts.length := by
  induction parts generalizing values with
  | nil =>
    cases hok
    rfl
  | cons part rest ih =>
    rw [List.mapM_cons] at hok
    obtain ⟨_, _, hok⟩ := eq_ok_of_bind hok
    obtain ⟨_, hrest, hok⟩ := eq_ok_of_bind hok
    cases hok
    rw [List.length_cons, List.length_cons, ih hrest]

/-- The first character of a number is a digit or a point, behind a sign if there is one. -/
theorem signed_of_unsigned {s rest : List Char} {c : Char} (hbody : Tag.unsigned s = c :: rest)
    (hc : c = '.' ∨ c.isDigit) :
    ∃ negative, signed s = .ok (negative, (c :: rest).filter (· ≠ '_')) := by
  have hfirst : c ≠ '_' ∧ c ≠ '-' ∧ c ≠ '+' := by
    obtain rfl | hdigit := hc
    · decide
    · exact ⟨ne_of_isDigit hdigit rfl, ne_of_isDigit hdigit rfl, ne_of_isDigit hdigit rfl⟩
  cases s with
  | nil => cases hbody
  | cons sign body =>
    rw [Tag.unsigned] at hbody
    split at hbody
    · rename_i hsign
      have hkept : sign ≠ '_' := by
        obtain rfl | rfl := hsign <;> decide
      refine ⟨sign = '-', ?_⟩
      rw [signed, List.filter_cons_of_pos (by simpa using hkept), ← hbody]
      simp [Or.comm.mp hsign]
    · cases hbody
      refine ⟨false, ?_⟩
      rw [signed, List.filter_cons_of_pos (by simpa using hfirst.1)]
      simp [hfirst]

/-- A digit, or an underscore, which is left out. -/
def IsLoose (c : Char) : Prop := c.isDigit ∨ c = '_'

theorem isDigit_of_mem_filter {s : List Char} (hloose : ∀ c ∈ s, IsLoose c) :
    ∀ c ∈ s.filter (· ≠ '_'), c.isDigit := by
  intro c hmem
  obtain ⟨hmem, hkept⟩ := List.mem_filter.mp hmem
  exact (hloose c hmem).resolve_right (by simpa using hkept)

/-- Digits and underscores, a digit first. -/
structure IsPart (s : List Char) : Prop where
  head : ∃ c rest, s = c :: rest ∧ c.isDigit
  loose : ∀ c ∈ s, IsLoose c

theorem IsPart.digits {s : List Char} (hpart : IsPart s) :
    s.filter (· ≠ '_') ≠ [] ∧ ∀ c ∈ s.filter (· ≠ '_'), c.isDigit := by
  obtain ⟨⟨c, rest, rfl, hc⟩, hloose⟩ := hpart
  refine ⟨?_, isDigit_of_mem_filter hloose⟩
  rw [List.filter_cons_of_pos (by simpa using ne_of_isDigit hc rfl)]
  exact List.cons_ne_nil _ _

theorem isPart_of_isGroup {s : List Char} (hgroup : Tag.isGroup s) : IsPart s := by
  cases s with
  | nil => cases hgroup
  | cons c rest =>
    obtain ⟨hc, hrest⟩ := Bool.and_eq_true_iff.mp hgroup
    refine ⟨⟨c, rest, rfl, hc⟩, fun d hmem => ?_⟩
    obtain rfl | hmem := List.mem_cons.mp hmem
    · exact .inl hc
    · simpa [IsLoose] using List.all_eq_true.mp hrest d hmem

theorem isPart_of_isSixtieth {s : List Char} (hpart : Tag.isSixtieth s) : IsPart s := by
  unfold Tag.isSixtieth at hpart
  split at hpart
  · rename_i c
    exact ⟨⟨c, [], rfl, hpart⟩, by simpa [IsLoose] using .inl hpart⟩
  · rename_i c d
    simp only [Bool.and_eq_true, decide_eq_true_eq] at hpart
    exact ⟨⟨c, [d], rfl, hpart.1.1⟩, by simp [IsLoose, hpart.1.1, hpart.2]⟩
  · cases hpart

/-- One or more parts of a number with colons between them. -/
def HasParts (s : List Char) : Prop := ∀ part ∈ s.splitOn ':', IsPart part

theorem hasParts_of_isGroup {s : List Char} (hgroup : Tag.isGroup s) : HasParts s := by
  have hpart := isPart_of_isGroup hgroup
  have hsingle : ':' ∉ s := fun hmem => (hpart.loose ':' hmem).elim (by decide) (by decide)
  intro part hmem
  rw [List.splitOn_eq_singleton hsingle, List.mem_singleton] at hmem
  exact hmem ▸ hpart

theorem hasParts_of_isSixtieths {s : List Char} (hparts : Tag.isSixtieths s) : HasParts s := by
  unfold Tag.isSixtieths at hparts
  split at hparts
  · rename_i first second rest hsplit
    obtain ⟨hfirst, hrest⟩ := Bool.and_eq_true_iff.mp hparts
    intro part hmem
    rw [hsplit] at hmem
    obtain rfl | hmem := List.mem_cons.mp hmem
    · exact isPart_of_isGroup hfirst
    · exact isPart_of_isSixtieth (List.all_eq_true.mp hrest part hmem)
  · cases hparts

theorem HasParts.head {s : List Char} (hparts : HasParts s) :
    ∃ c rest, s = c :: rest ∧ c.isDigit := by
  cases s with
  | nil =>
    obtain ⟨c, rest, hempty, -⟩ := (hparts [] (by simp)).head
    cases hempty
  | cons c rest =>
    obtain ⟨first, others, hsplit⟩ := List.exists_cons_of_ne_nil (List.splitOn_ne_nil ':' rest)
    rw [HasParts, List.splitOn_cons_eq_if_modifyHead, hsplit] at hparts
    split at hparts
    · obtain ⟨c, rest, hempty, -⟩ := (hparts [] List.mem_cons_self).head
      cases hempty
    · obtain ⟨d, more, heq, hd⟩ := (hparts (c :: first) List.mem_cons_self).head
      cases heq
      exact ⟨c, rest, rfl, hd⟩

/-- Without underscores, the parts are digits. -/
theorem HasParts.digits {s : List Char} (hparts : HasParts s) :
    ∀ part ∈ (s.filter (· ≠ '_')).splitOn ':', part ≠ [] ∧ ∀ c ∈ part, c.isDigit := by
  intro part hmem
  rw [splitOn_filter (by decide)] at hmem
  obtain ⟨loose, hloose, rfl⟩ := List.mem_map.mp hmem
  exact (hparts loose hloose).digits

end AllowPolicy.Yaml.Scalar
