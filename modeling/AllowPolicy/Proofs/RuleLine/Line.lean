import AllowPolicy.RuleLine
import Mathlib.Data.List.Basic

namespace AllowPolicy

namespace Text

theorem not_mem_of_mem_splitOn {sep : Char} {s word : List Char} (hword : word ∈ s.splitOn sep) :
    sep ∉ word := by
  induction s generalizing word with
  | nil =>
    rw [List.splitOn_nil, List.mem_singleton] at hword
    simp [hword]
  | cons c rest ih =>
    rw [List.splitOn_cons_eq_if_modifyHead] at hword
    by_cases hc : c == sep
    · rw [if_pos hc] at hword
      rcases List.mem_cons.mp hword with rfl | hrest
      · exact List.not_mem_nil
      · exact ih hrest
    · rw [if_neg hc] at hword
      obtain ⟨first, others, hsplit⟩ := List.exists_cons_of_ne_nil (List.splitOn_ne_nil sep rest)
      rw [hsplit] at hword ih
      rcases List.mem_cons.mp hword with rfl | hrest
      · have hne : sep ≠ c := fun heq => hc (by simp [heq])
        exact List.not_mem_cons_of_ne_of_not_mem hne (ih List.mem_cons_self)
      · exact ih (List.mem_cons_of_mem first hrest)

theorem dropTrailing_append {p : Char → Bool} {front ends : List Char}
    (hends : ∀ c ∈ ends, p c = true) : dropTrailing p (front ++ ends) = dropTrailing p front := by
  unfold dropTrailing
  rw [List.reverse_append, List.dropWhile_append_of_pos]
  simpa using hends

theorem dropTrailing_eq_self {p : Char → Bool} {s : List Char}
    (hlast : ∀ c ∈ s.getLast?, p c = false) : dropTrailing p s = s := by
  unfold dropTrailing
  cases hs : s.reverse with
  | nil => simpa using hs.symm
  | cons c rest =>
    have hc : p c = false := hlast c (by rw [List.getLast?_eq_head?_reverse, hs]; rfl)
    rw [List.dropWhile_cons_of_neg (by simp [hc]), ← hs, List.reverse_reverse]

/-- What is dropped is a run of such characters, and none is left at the end. -/
theorem dropTrailing_cases (p : Char → Bool) (s : List Char) :
    (∃ ends, s = dropTrailing p s ++ ends ∧ ∀ c ∈ ends, p c = true) ∧
      ∀ c ∈ (dropTrailing p s).getLast?, p c = false := by
  unfold dropTrailing
  refine ⟨⟨(s.reverse.takeWhile p).reverse, ?_, ?_⟩, ?_⟩
  · rw [← List.reverse_append, List.takeWhile_append_dropWhile, List.reverse_reverse]
  · intro c hc
    exact List.all_eq_true.mp List.all_takeWhile c (List.mem_reverse.mp hc)
  · intro c hc
    rw [List.getLast?_reverse] at hc
    have hfirst := List.head?_dropWhile_not p s.reverse
    rw [Option.mem_def.mp hc] at hfirst
    simpa using hfirst

theorem intercalate_concat (sep last : List Char) (words : List (List Char)) :
    sep.intercalate (words ++ [last]) = words.flatMap (· ++ sep) ++ last := by
  induction words with
  | nil => simp
  | cons word rest ih =>
    obtain ⟨next, others, hnext⟩ := List.exists_cons_of_ne_nil
      (List.append_ne_nil_of_right_ne_nil rest (List.cons_ne_nil last []))
    rw [List.cons_append, hnext, List.intercalate_cons_cons, ← hnext, ih, List.flatMap_cons]
    simp only [List.append_assoc]

end Text

namespace RuleLine

/-- The text is this line with nothing but line ends behind it, of which the line itself has none at
    its end. -/
def IsLineOf (line : List Char) (text : String) : Prop :=
  (∃ ends, text.toList = line ++ ends ∧ ∀ c ∈ ends, c = '\r' ∨ c = '\n') ∧
    ∀ c ∈ line.getLast?, c ≠ '\r' ∧ c ≠ '\n'

theorem isLineOf_iff (line : List Char) (text : String) :
    IsLineOf line text ↔ trimEnd text.toList = line := by
  unfold trimEnd
  constructor
  · rintro ⟨⟨ends, htext, hends⟩, hlast⟩
    rw [htext, Text.dropTrailing_append (by simpa using hends)]
    exact Text.dropTrailing_eq_self (by simpa using hlast)
  · rintro rfl
    simpa [IsLineOf] using Text.dropTrailing_cases (fun c => c = '\r' ∨ c = '\n') text.toList

/-- An allow line with these words, each set off from the next by a single space. -/
structure Allows (line : List Char) (words : List (List Char)) : Prop where
  spelt : line = "allow ".toList ++ [' '].intercalate words
  nonempty : words ≠ []
  solid : ∀ word ∈ words, ' ' ∉ word
  single : '\n' ∉ line

theorem words?_append (body : List Char) :
    words? ("allow ".toList ++ body) =
      if '\n' ∈ "allow ".toList ++ body then none else some (body.splitOn ' ') := by
  unfold words?
  rw [Text.after?_eq_some_iff.mpr rfl]

theorem words?_of_no_start {line : List Char} (hother : ¬ "allow ".toList <+: line) :
    words? line = none := by
  unfold words?
  cases hbody : Text.after? "allow ".toList line with
  | none => rfl
  | some body => exact absurd ⟨body, (Text.after?_eq_some_iff.mp hbody).symm⟩ hother

theorem words?_eq_none_iff (line : List Char) :
    words? line = none ↔ ¬ "allow ".toList <+: line ∨ '\n' ∈ line := by
  by_cases hfront : "allow ".toList <+: line
  · obtain ⟨body, rfl⟩ := hfront
    rw [words?_append]
    by_cases hfeed : '\n' ∈ "allow ".toList ++ body
    · rw [if_pos hfeed]
      exact iff_of_true rfl (.inr hfeed)
    · rw [if_neg hfeed]
      refine iff_of_false (by simp) ?_
      exact not_or.mpr ⟨not_not.mpr (List.prefix_append _ body), hfeed⟩
  · exact iff_of_true (words?_of_no_start hfront) (.inl hfront)

theorem words?_eq_some_iff (line : List Char) (words : List (List Char)) :
    words? line = some words ↔ Allows line words := by
  constructor
  · intro hwords
    have hsome : ¬ (¬ "allow ".toList <+: line ∨ '\n' ∈ line) := by
      rw [← words?_eq_none_iff, hwords]
      exact Option.some_ne_none words
    obtain ⟨hfront, hsingle⟩ := not_or.mp hsome
    obtain ⟨body, rfl⟩ := not_not.mp hfront
    rw [words?_append, if_neg hsingle, Option.some.injEq] at hwords
    subst hwords
    exact ⟨by rw [List.intercalate_splitOn], List.splitOn_ne_nil ' ' body,
      fun _ => Text.not_mem_of_mem_splitOn, hsingle⟩
  · rintro ⟨rfl, hnonempty, hsolid, hsingle⟩
    rw [words?_append, if_neg hsingle, List.splitOn_intercalate ' ' hsolid hnonempty]

/-- The characters of a word stand in the line. -/
theorem Allows.subset {line : List Char} {words : List (List Char)} (hwords : Allows line words)
    (word : List Char) (hword : word ∈ words) : word ⊆ line := by
  obtain ⟨hspelt, hnonempty, _, _⟩ := hwords
  obtain ⟨front, last, rfl⟩ := (List.eq_nil_or_concat' words).resolve_left hnonempty
  rw [hspelt, Text.intercalate_concat]
  intro c hc
  rcases List.mem_append.mp hword with hfront | hlast
  · have hflat : c ∈ front.flatMap (· ++ [' ']) :=
      List.mem_flatMap.mpr ⟨word, hfront, List.mem_append_left _ hc⟩
    exact List.mem_append_right _ (List.mem_append_left _ hflat)
  · rw [List.mem_singleton] at hlast
    exact List.mem_append_right _ (List.mem_append_right _ (hlast ▸ hc))

theorem Allows.no_feed {line : List Char} {words : List (List Char)} (hwords : Allows line words)
    (word : List Char) (hword : word ∈ words) : '\n' ∉ word :=
  fun hfeed => hwords.single (hwords.subset word hword hfeed)

/-- Words of one line make an allow line. The empty word behind them keeps the last of them from
    losing a carriage return at its end. -/
theorem exists_line {words : List (List Char)}
    (hwords : ∀ word ∈ words, ' ' ∉ word ∧ '\n' ∉ word) :
    ∃ text line, IsLineOf line text ∧ Allows line (words ++ [[]]) := by
  have hspelt : [' '].intercalate (words ++ [[]]) = words.flatMap (· ++ [' ']) := by
    rw [Text.intercalate_concat, List.append_nil]
  have hlast : ("allow ".toList ++ words.flatMap (· ++ [' '])).getLast? = some ' ' := by
    rcases List.eq_nil_or_concat' words with rfl | ⟨front, last, rfl⟩
    · rfl
    · rw [List.flatMap_append, List.flatMap_singleton, ← List.append_assoc, ← List.append_assoc,
        List.getLast?_concat]
  have hsingle : '\n' ∉ "allow ".toList ++ words.flatMap (· ++ [' ']) := by
    intro hfeed
    rcases List.mem_append.mp hfeed with hallow | hflat
    · exact absurd hallow (by decide)
    · obtain ⟨word, hword, hmem⟩ := List.mem_flatMap.mp hflat
      rcases List.mem_append.mp hmem with hmem | hmem
      · exact (hwords word hword).2 hmem
      · exact absurd hmem (by decide)
  refine ⟨.ofList ("allow ".toList ++ words.flatMap (· ++ [' '])), _,
    ⟨⟨[], by rw [String.toList_ofList, List.append_nil], by simp⟩, ?_⟩,
    by rw [hspelt], by simp, ?_, hsingle⟩
  · rw [hlast]
    rintro c ⟨⟩
    decide
  · intro word hword
    rcases List.mem_append.mp hword with hword | hempty
    · exact (hwords word hword).1
    · rw [List.mem_singleton] at hempty
      simp [hempty]

end RuleLine

end AllowPolicy
