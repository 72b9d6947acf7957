import AllowPolicy.Text.Lowercase
import Mathlib.Data.List.Basic
import Mathlib.Data.List.TakeWhile

namespace AllowPolicy.Text

section Characters

/-- The runs of capitals begin with `A`, and their lower-case forms, characters all of them, with
    `a`. -/
theorem letters_of_mem_lowercaseRuns : ∀ run ∈ lowercaseRuns,
    'A'.toNat ≤ run.1 ∧ (97 : Int) ≤ run.1 + run.2.2.2 ∧
      ((run.2.1 : Int) + run.2.2.2 < 0xd800 ∨
        (0xdfff < run.1 + run.2.2.2 ∧ (run.2.1 : Int) + run.2.2.2 < 0x110000)) := by
  decide +kernel

/-- What is not lower case in itself becomes letters. -/
theorem lowerChar_cases (c : Char) :
    lowerChar c = [c] ∨ ('A'.toNat ≤ c.toNat ∧ ∀ d ∈ lowerChar c, 'a'.toNat ≤ d.toNat) := by
  unfold lowerChar
  split
  · next hdotted =>
    refine .inr ⟨hdotted ▸ by decide, ?_⟩
    exact List.forall_mem_cons.mpr ⟨by decide, List.forall_mem_singleton.mpr (by decide)⟩
  · split
    · next first last step shift hfound =>
      obtain ⟨hfirst, hletter, hvalid⟩ :=
        letters_of_mem_lowercaseRuns _ (List.mem_of_find?_eq_some hfound)
      have hrange := List.find?_some hfound
      simp only [Bool.and_eq_true, decide_eq_true_eq] at hfirst hletter hvalid hrange
      refine .inr ⟨by omega, fun d hd => ?_⟩
      have hchar : (c.toNat + shift).toNat.isValidChar := by
        unfold Nat.isValidChar
        omega
      have hd : d.toNat = (c.toNat + shift).toNat := by
        rw [List.mem_singleton.mp hd, Char.ofNat, dif_pos hchar]
        rfl
      change 97 ≤ _
      omega
    · exact .inl rfl

theorem lowerChar_ne_nil (c : Char) : lowerChar c ≠ [] := by
  unfold lowerChar
  split
  · exact List.cons_ne_nil _ _
  · split <;> exact List.cons_ne_nil _ _

/-- The lower-case form of a character in its place, with what stands before it in reverse. -/
def lowerAt (before : List Char) (c : Char) (after : List Char) : List Char :=
  if c = 'Σ' then [sigmaForm before after] else lowerChar c

theorem lowerAt_of_ne {c : Char} (hc : c ≠ 'Σ') (before after : List Char) :
    lowerAt before c after = lowerChar c := if_neg hc

theorem sigmaForm_cases (before after : List Char) :
    sigmaForm before after = 'ς' ∨ sigmaForm before after = 'σ' := by
  unfold sigmaForm
  split
  · exact .inl rfl
  · exact .inr rfl

theorem lowerAt_ne_nil (before : List Char) (c : Char) (after : List Char) :
    lowerAt before c after ≠ [] := by
  unfold lowerAt
  split
  · exact List.cons_ne_nil _ _
  · exact lowerChar_ne_nil c

theorem length_lowerAt (before other : List Char) (c : Char) (after : List Char) :
    (lowerAt before c after).length = (lowerAt other c after).length := by
  unfold lowerAt
  split <;> rfl

/-- A character that stands before all letters. -/
def IsMark (c : Char) : Prop := c.toNat < 'A'.toNat

instance : DecidablePred IsMark := fun _ => inferInstanceAs (Decidable (_ < _))

theorem isMark_dot : IsMark '.' := by decide

theorem isMark_star : IsMark '*' := by decide

variable {mark : Char}

/-- A mark stays what it is. -/
theorem IsMark.lowerAt_eq (hmark : IsMark mark) (before after : List Char) :
    lowerAt before mark after = [mark] := by
  have hne : mark ≠ 'Σ' := by
    rintro rfl
    exact absurd hmark (by decide)
  rw [lowerAt_of_ne hne]
  obtain hself | ⟨hletter, _⟩ := lowerChar_cases mark
  · exact hself
  · exact absurd hmark (Nat.not_lt.mpr hletter)

/-- No other character becomes a mark. -/
theorem IsMark.mem_lowerAt_iff (hmark : IsMark mark) (before : List Char) (c : Char)
    (after : List Char) : mark ∈ lowerAt before c after ↔ mark = c := by
  have hbelow : mark.toNat < 'a'.toNat := Nat.lt_trans hmark (by decide)
  refine ⟨fun hmem => ?_, ?_⟩
  · unfold lowerAt at hmem
    split at hmem
    · rw [List.mem_singleton] at hmem
      obtain hform | hform := sigmaForm_cases before after <;>
        exact absurd (hmem.trans hform ▸ hbelow) (by decide)
    · obtain hself | ⟨_, hletters⟩ := lowerChar_cases c
      · rwa [hself, List.mem_singleton] at hmem
      · exact absurd hbelow (Nat.not_lt.mpr (hletters mark hmem))
  · rintro rfl
    rw [hmark.lowerAt_eq]
    exact List.mem_singleton_self mark

end Characters

section Places

theorem lowerFrom_cons (before : List Char) (c : Char) (after : List Char) :
    lowerFrom before (c :: after) = lowerAt before c after ++ lowerFrom (c :: before) after := rfl

theorem lowerFrom_eq_nil_iff (before s : List Char) : lowerFrom before s = [] ↔ s = [] := by
  cases s with
  | nil => exact iff_of_true rfl rfl
  | cons c after =>
    rw [lowerFrom_cons]
    refine iff_of_false ?_ (List.cons_ne_nil c after)
    exact List.append_ne_nil_of_left_ne_nil (lowerAt_ne_nil before c after) _

theorem length_lowerFrom (before other s : List Char) :
    (lowerFrom before s).length = (lowerFrom other s).length := by
  induction s generalizing before other with
  | nil => rfl
  | cons c after ih =>
    rw [lowerFrom_cons, lowerFrom_cons, List.length_append, List.length_append,
      length_lowerAt before other, ih]

/-- The end of a text is lower-cased after what stands before it. -/
theorem lowerFrom_suffix (before front back : List Char) :
    lowerFrom (front.reverse ++ before) back <:+ lowerFrom before (front ++ back) := by
  induction front generalizing before with
  | nil => exact List.suffix_rfl
  | cons c rest ih =>
    rw [List.reverse_cons, List.append_assoc]
    exact (ih (c :: before)).trans (List.suffix_append _ _)

variable {mark : Char}

theorem IsMark.lowerFrom_cons (hmark : IsMark mark) (before after : List Char) :
    lowerFrom before (mark :: after) = mark :: lowerFrom (mark :: before) after := by
  rw [Text.lowerFrom_cons, hmark.lowerAt_eq, List.singleton_append]

/-- A lower-case text begins with a mark where the text does. -/
theorem IsMark.cons_prefix_lowerFrom_iff (hmark : IsMark mark) (before marks s : List Char) :
    mark :: marks <+: lowerFrom before s ↔
      ∃ after, s = mark :: after ∧ marks <+: lowerFrom (mark :: before) after := by
  cases s with
  | nil => simp [lowerFrom]
  | cons c after =>
    by_cases hc : mark = c
    · subst hc
      rw [hmark.lowerFrom_cons, List.cons_prefix_cons]
      simp
    · refine iff_of_false (fun hfront => ?_) (fun ⟨_, hsame, _⟩ => hc (List.cons.inj hsame).1.symm)
      obtain ⟨d, rest, hform⟩ := List.exists_cons_of_ne_nil (lowerAt_ne_nil before c after)
      rw [Text.lowerFrom_cons, hform, List.cons_append, List.cons_prefix_cons] at hfront
      refine hc ((hmark.mem_lowerAt_iff before c after).mp ?_)
      rw [hform, hfront.1]
      exact List.mem_cons_self

/-- A lower-case text ends in a mark where the text does. -/
theorem IsMark.getLast?_lowerFrom_iff (hmark : IsMark mark) (before s : List Char) :
    (lowerFrom before s).getLast? = some mark ↔ s.getLast? = some mark := by
  induction s generalizing before with
  | nil => simp [lowerFrom]
  | cons c after ih =>
    rw [Text.lowerFrom_cons]
    by_cases hafter : after = []
    · subst hafter
      rw [lowerFrom, List.append_nil, List.getLast?_singleton, Option.some_inj, eq_comm (a := c)]
      refine ⟨fun hlast => ?_, ?_⟩
      · exact (hmark.mem_lowerAt_iff before c []).mp (List.mem_of_getLast? hlast)
      · rintro rfl
        rw [hmark.lowerAt_eq, List.getLast?_singleton]
    · have hrest := (lowerFrom_eq_nil_iff (c :: before) after).not.mpr hafter
      rw [List.getLast?_append_of_ne_nil _ hrest, List.getLast?_cons_of_ne_nil hafter]
      exact ih (c :: before)

end Places

section Sigma

theorem meetsCased_cons (c : Char) (s : List Char) :
    meetsCased (c :: s) =
      if inRanges caseIgnorableRanges c then meetsCased s else inRanges casedRanges c := by
  unfold meetsCased
  by_cases hpassed : inRanges caseIgnorableRanges c
  · rw [List.dropWhile_cons_of_pos hpassed, if_pos hpassed]
  · rw [List.dropWhile_cons_of_neg hpassed, if_neg hpassed]

/-- What is passed over does not count at the end of a text. -/
theorem meetsCased_append {ends : List Char}
    (hends : ∀ c ∈ ends, inRanges caseIgnorableRanges c = true) (s : List Char) :
    meetsCased (s ++ ends) = meetsCased s := by
  induction s with
  | nil =>
    rw [List.nil_append, meetsCased, List.dropWhile_eq_nil_iff.mpr hends]
    rfl
  | cons c after ih => rw [List.cons_append, meetsCased_cons, meetsCased_cons, ih]

/-- What stands before a text counts for its lower case only as far as case is met there. -/
theorem lowerFrom_congr {before other : List Char} (hmeets : meetsCased before = meetsCased other)
    (s : List Char) : lowerFrom before s = lowerFrom other s := by
  induction s generalizing before other with
  | nil => rfl
  | cons c after ih =>
    have hform : lowerAt before c after = lowerAt other c after := by
      unfold lowerAt sigmaForm
      rw [hmeets]
    rw [lowerFrom_cons, lowerFrom_cons, hform, ih]
    rw [meetsCased_cons, meetsCased_cons, hmeets]

/-- The first character that is not passed over is a capital sigma, and the last to have case. -/
def opensWithLastSigma (s : List Char) : Bool :=
  match s.dropWhile (inRanges caseIgnorableRanges) with
  | 'Σ' :: rest => !meetsCased rest
  | _ => false

theorem opensWithLastSigma_cons (c : Char) (s : List Char) :
    opensWithLastSigma (c :: s) =
      if inRanges caseIgnorableRanges c then opensWithLastSigma s
      else if c = 'Σ' then !meetsCased s else false := by
  unfold opensWithLastSigma
  by_cases hpassed : inRanges caseIgnorableRanges c
  · rw [List.dropWhile_cons_of_pos hpassed, if_pos hpassed]
  · rw [List.dropWhile_cons_of_neg hpassed, if_neg hpassed]
    by_cases hsigma : c = 'Σ'
    · subst hsigma
      rfl
    · rw [if_neg hsigma]
      split
      · next hcons => exact absurd (List.cons.inj hcons).1 hsigma
      · rfl

theorem opensWithLastSigma_append {ends : List Char}
    (hends : ∀ c ∈ ends, inRanges caseIgnorableRanges c = true) (s : List Char) :
    opensWithLastSigma (s ++ ends) = opensWithLastSigma s := by
  induction s with
  | nil =>
    rw [List.nil_append, opensWithLastSigma, List.dropWhile_eq_nil_iff.mpr hends]
    rfl
  | cons c after ih =>
    rw [List.cons_append, opensWithLastSigma_cons, opensWithLastSigma_cons, ih,
      meetsCased_append hends]

/-- A text has one lower case after a cased character and another without one exactly if it opens
    with its last sigma. -/
theorem lowerFrom_eq_iff {before other : List Char} (hcased : meetsCased before = true)
    (hnone : meetsCased other = false) (s : List Char) :
    lowerFrom before s = lowerFrom other s ↔ opensWithLastSigma s = false := by
  induction s generalizing before other with
  | nil => exact iff_of_true rfl rfl
  | cons c after ih =>
    rw [lowerFrom_cons, lowerFrom_cons, opensWithLastSigma_cons]
    by_cases hpassed : inRanges caseIgnorableRanges c
    · have hne : c ≠ 'Σ' := by
        rintro rfl
        exact absurd hpassed (by decide +kernel)
      rw [if_pos hpassed, lowerAt_of_ne hne, lowerAt_of_ne hne, List.append_cancel_left_eq]
      refine ih ?_ ?_
      · rw [meetsCased_cons, if_pos hpassed, hcased]
      · rw [meetsCased_cons, if_pos hpassed, hnone]
    -- Case is met at this character alike on both sides, so only its own form can differ.
    · have hrest : lowerFrom (c :: before) after = lowerFrom (c :: other) after :=
        lowerFrom_congr (by rw [meetsCased_cons, meetsCased_cons, if_neg hpassed, if_neg hpassed])
          after
      rw [if_neg hpassed, hrest, List.append_cancel_right_eq]
      by_cases hsigma : c = 'Σ'
      · cases hafter : meetsCased after <;>
          simp [lowerAt, sigmaForm, hsigma, hcased, hnone, hafter]
      · rw [lowerAt_of_ne hsigma, lowerAt_of_ne hsigma, if_neg hsigma]
        exact iff_of_true rfl rfl

theorem lowerFrom_eq_lower_iff {before : List Char} (hcased : meetsCased before = true)
    (s : List Char) : lowerFrom before s = lower s ↔ opensWithLastSigma s = false :=
  lowerFrom_eq_iff hcased rfl s

end Sigma

section Dots

theorem caseIgnorable_of_mem_dots (n : Nat) :
    ∀ c ∈ List.replicate n '.', inRanges caseIgnorableRanges c = true := by
  intro c hc
  rw [List.eq_of_mem_replicate hc]
  decide

theorem lowerFrom_dots (before : List Char) (n : Nat) :
    lowerFrom before (List.replicate n '.') = List.replicate n '.' := by
  induction n generalizing before with
  | zero => rfl
  | succ n ih => rw [List.replicate_succ, isMark_dot.lowerFrom_cons, ih]

/-- A dot is passed over and stays a dot, so dots at the end of a text change nothing
    before them. -/
theorem lowerFrom_append_dots (before s : List Char) (n : Nat) :
    lowerFrom before (s ++ List.replicate n '.') =
      lowerFrom before s ++ List.replicate n '.' := by
  induction s generalizing before with
  | nil => exact lowerFrom_dots before n
  | cons c after ih =>
    have hform : lowerAt before c (after ++ List.replicate n '.') = lowerAt before c after := by
      unfold lowerAt sigmaForm
      rw [meetsCased_append (caseIgnorable_of_mem_dots n)]
    rw [List.cons_append, lowerFrom_cons, lowerFrom_cons, hform, ih, List.append_assoc]

end Dots

end AllowPolicy.Text
