import AllowPolicy.Decimal.Integer
import AllowPolicy.Decimal.Real

namespace AllowPolicy

namespace Text

/-- A visible ASCII character. -/
def IsVisible (c : Char) : Prop := 0x20 < c.toNat ∧ c.toNat < 0x7f

theorem IsVisible.not_isBlank {c : Char} (hvisible : IsVisible c) : isBlank c = false := by
  obtain ⟨hleast, hmost⟩ := hvisible
  rw [isBlank, Bool.eq_false_iff, Ne, inRanges_iff]
  simp only [blankRanges, List.mem_cons, List.not_mem_nil, or_false, not_exists, not_and]
  rintro ⟨low, high⟩ hrange hlow
  simp only [Prod.mk.injEq] at hrange
  omega

theorem toNat_of_isDigit {c : Char} (hdigit : c.isDigit) : 48 ≤ c.toNat ∧ c.toNat ≤ 57 :=
  Char.isDigit_iff_toNat.mp hdigit

theorem isVisible_of_isDigit {c : Char} (hdigit : c.isDigit) : IsVisible c := by
  have := toNat_of_isDigit hdigit
  exact ⟨by omega, by omega⟩

theorem ne_of_isDigit {c other : Char} (hdigit : c.isDigit) (hother : other.isDigit = false) :
    c ≠ other := by
  rintro rfl
  rw [hdigit] at hother
  cases hother

theorem digitValue?_of_isDigit {c : Char} (hdigit : c.isDigit) :
    digitValue? c = some (c.toNat - 48) := by
  obtain ⟨hleast, hmost⟩ := toNat_of_isDigit hdigit
  have hfirst :
      digitZeros.find? (fun first => decide (first ≤ c.toNat) && decide (c.toNat < first + 10)) =
      some 0x30 := by
    refine List.find?_cons_of_pos ?_
    simp only [Bool.and_eq_true, decide_eq_true_eq]
    omega
  rw [digitValue?, hfirst]
  rfl

theorem toNat_toLower (c : Char) :
    c.toLower.toNat = if 65 ≤ c.toNat ∧ c.toNat ≤ 90 then c.toNat + 32 else c.toNat := by
  unfold Char.toLower
  split
  · rename_i hupper
    have hnat : 65 ≤ c.toNat ∧ c.toNat ≤ 90 := hupper
    rw [if_pos hnat]
    change (c.val + 32).toNat = c.val.toNat + 32
    have hmost : c.val.toNat ≤ 90 := hnat.2
    rw [UInt32.toNat_add]
    exact Nat.mod_eq_of_lt (Nat.lt_of_le_of_lt (Nat.add_le_add_right hmost 32) (by decide))
  · rename_i hother
    exact (if_neg hother).symm

theorem toLower_of_isDigit {c : Char} (hdigit : c.isDigit) : c.toLower = c := by
  have := toNat_of_isDigit hdigit
  rw [← Char.toNat_inj, toNat_toLower, if_neg (by omega)]

theorem trim_of_isVisible {s : List Char} (hvisible : ∀ c ∈ s, IsVisible c) :
    trim isBlank s = s := by
  have hfront {s : List Char} (hvisible : ∀ c ∈ s, IsVisible c) : s.dropWhile isBlank = s := by
    cases s with
    | nil => rfl
    | cons c rest =>
      rw [List.dropWhile_cons_of_neg]
      simp [(hvisible c List.mem_cons_self).not_isBlank]
  rw [trim, hfront hvisible, dropTrailing,
    hfront fun c hmem => hvisible c (List.mem_reverse.mp hmem),
    List.reverse_reverse]

end Text

namespace Decimal

open Text

theorem readInBase?_isSome {base : Nat} {digit? : Char → Option Nat} {s : List Char}
    (hdigits : ∀ c ∈ s, (digit? c).isSome) (hne : s ≠ []) : (readInBase? base digit? s).isSome := by
  have hmore (value : Nat) {s : List Char} (hdigits : ∀ c ∈ s, (digit? c).isSome) :
      (readMoreDigits base digit? value s).isSome := by
    fun_induction readMoreDigits base digit? value s with
    | case1 => rfl
    | case2 value c rest ih =>
      obtain ⟨d, hd⟩ := Option.isSome_iff_exists.mp (hdigits c (by simp))
      rw [hd]
      exact ih d fun e hmem => hdigits e (by simp [hmem])
    | case3 value c rest _ ih =>
      obtain ⟨d, hd⟩ := Option.isSome_iff_exists.mp (hdigits c (by simp))
      rw [hd]
      exact ih d fun e hmem => hdigits e (by simp [hmem])
  cases s with
  | nil => exact absurd rfl hne
  | cons c rest =>
    obtain ⟨d, hd⟩ := Option.isSome_iff_exists.mp (hdigits c List.mem_cons_self)
    rw [readInBase?, hd]
    exact hmore d fun e hmem => hdigits e (List.mem_cons_of_mem _ hmem)

/-- Digits are an integer. -/
theorem readInteger?_isSome {s : List Char} (hdigits : ∀ c ∈ s, c.isDigit) (hne : s ≠ []) :
    (readInteger? (.ofList s)).isSome := by
  have hread : (readDigits? digitValue? s).isSome :=
    readInBase?_isSome (fun c hmem => by rw [digitValue?_of_isDigit (hdigits c hmem)]; rfl) hne
  rw [readInteger?, String.toList_ofList,
    trim_of_isVisible fun c hmem => isVisible_of_isDigit (hdigits c hmem)]
  unfold readSigned?
  split
  · exact absurd (hdigits '-' List.mem_cons_self) (by decide)
  · exact absurd (hdigits '+' List.mem_cons_self) (by decide)
  · obtain ⟨n, hn⟩ := Option.isSome_iff_exists.mp hread
    rw [hn]
    rfl

/-- All digits are counted. -/
theorem digitCount_of_isDigit {s : List Char} (hdigits : ∀ c ∈ s, c.isDigit) :
    digitCount s = s.length := by
  have hrun : s.takeWhile (fun c => c = '_' || (digitValue? c).isSome) = s := by
    have hall : ∀ c ∈ s, (c = '_' || (digitValue? c).isSome) = true := fun c hmem => by
      rw [digitValue?_of_isDigit (hdigits c hmem)]
      exact Bool.or_true _
    rw [← List.append_nil s, List.takeWhile_append_of_pos hall, List.takeWhile_nil]
  have hkept : s.filter (· ≠ '_') = s := by
    rw [List.filter_eq_self]
    intro c hmem
    simpa using ne_of_isDigit (hdigits c hmem) rfl
  rw [digitCount, trim_of_isVisible fun c hmem => isVisible_of_isDigit (hdigits c hmem)]
  split
  · exact absurd (hdigits _ List.mem_cons_self) (by decide)
  · exact absurd (hdigits _ List.mem_cons_self) (by decide)
  · simp only [hrun, hkept]

/-- Digits spell an integer, unless they are too many. -/
theorem spelled_of_isDigit {s : List Char} (hdigits : ∀ c ∈ s, c.isDigit) (hne : s ≠ []) :
    (mostDigits < s.length ∧ spelled (.ofList s) = .error (tooManyDigits s.length)) ∨
      ∃ n, spelled (.ofList s) = .ok n := by
  rw [spelled, String.toList_ofList, digitCount_of_isDigit hdigits]
  by_cases hmany : mostDigits < s.length
  · exact .inl ⟨hmany, if_pos hmany⟩
  · obtain ⟨n, hread⟩ := Option.isSome_iff_exists.mp (readInteger?_isSome hdigits hne)
    exact .inr ⟨n, by rw [if_neg hmany, hread]⟩

/-- A run of digits up to the first character that is none. -/
theorem span_digits {run : List Char} (hrun : ∀ c ∈ run, c.isDigit) (tail : List Char)
    (htail : ∀ c ∈ tail.head?, c.isDigit = false) :
    (run ++ tail).takeWhile Char.isDigit = run ∧ (run ++ tail).dropWhile Char.isDigit = tail := by
  rw [List.takeWhile_append_of_pos hrun, List.dropWhile_append_of_pos hrun]
  cases tail with
  | nil => simp
  | cons c rest =>
    have hc := htail c rfl
    simp [hc]

/-- A number without a sign in front is a number. -/
theorem readReal?_of_readUnsigned? {s : List Char} (hsign : ∀ c ∈ s.head?, c = '.' ∨ c.isDigit)
    (hread : (readUnsigned? s).isSome) : (readReal? s).isSome := by
  have hmagnitude : (readMagnitude? s).isSome := by
    unfold readMagnitude?
    dsimp only
    split
    · rfl
    · split
      · rfl
      · exact hread
  unfold readReal?
  split
  · exact absurd (hsign '-' rfl) (by decide)
  · exact absurd (hsign '+' rfl) (by decide)
  · exact hmagnitude

theorem readReal?_digits_isSome {digits : List Char} (hdigits : ∀ c ∈ digits, c.isDigit)
    (hne : digits ≠ []) : (readReal? digits).isSome := by
  refine readReal?_of_readUnsigned? (fun c hhead => .inr (hdigits c (List.mem_of_head? hhead))) ?_
  obtain ⟨htake, hdrop⟩ := span_digits hdigits [] nofun
  rw [List.append_nil] at htake hdrop
  rw [readUnsigned?, htake, hdrop]
  change (if digits.isEmpty ∧ true then none else (some 0).map _).isSome
  rw [if_neg]
  · rfl
  · rw [List.isEmpty_iff]
    exact fun h => hne h.1

/-- Digits with a point before, among or behind them, and perhaps an exponent, are a number. -/
theorem readReal?_pointed_isSome {whole part tail : List Char} (hwhole : ∀ c ∈ whole, c.isDigit)
    (hpart : ∀ c ∈ part, c.isDigit) (hne : whole ≠ [] ∨ part ≠ [])
    (htail : ∀ c ∈ tail.head?, c.isDigit = false) (hexponent : (readExponent? tail).isSome) :
    (readReal? (whole ++ '.' :: (part ++ tail))).isSome := by
  refine readReal?_of_readUnsigned? (fun c hhead => ?_) ?_
  · cases whole with
    | nil =>
      cases hhead
      exact .inl rfl
    | cons first more =>
      cases hhead
      exact .inr (hwhole _ List.mem_cons_self)
  · obtain ⟨htake, hdrop⟩ := span_digits hwhole ('.' :: (part ++ tail)) (by simp)
    obtain ⟨hpartTake, hpartDrop⟩ := span_digits hpart tail htail
    rw [readUnsigned?, htake, hdrop]
    change (if whole.isEmpty ∧ ((part ++ tail).takeWhile Char.isDigit).isEmpty then none
      else (readExponent? ((part ++ tail).dropWhile Char.isDigit)).map _).isSome
    rw [hpartTake, hpartDrop, if_neg, Option.isSome_map]
    · exact hexponent
    · rw [List.isEmpty_iff, List.isEmpty_iff]
      rintro ⟨hnone, hempty⟩
      exact hne.elim (fun h => h hnone) (fun h => h hempty)

/-- A number is shown by its digits, behind a sign if it is negative. -/
theorem toList_toString (n : Int) :
    (toString n).toList =
      if n < 0 then '-' :: Nat.toDigits 10 n.natAbs else Nat.toDigits 10 n.natAbs := by
  have hnat (n : Nat) : (toString n).toList = Nat.toDigits 10 n := by
    rw [Nat.toString_eq_ofList_toDigits, String.toList_ofList]
  cases n with
  | ofNat n => exact hnat n
  | negSucc n =>
    have hshown : toString (Int.negSucc n) = "-" ++ toString (n + 1) := rfl
    rw [hshown, String.toList_append, hnat, if_pos (Int.negSucc_lt_zero n)]
    rfl

end Decimal

end AllowPolicy
