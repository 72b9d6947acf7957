import AllowPolicy.Net.Ipv4
import AllowPolicy.Proofs.Decimal.Plain
import AllowPolicy.Proofs.RuleLine.Line
import Mathlib.Data.List.Induction

namespace AllowPolicy.Ipv4

open AllowPolicy.Text

section Numerals

theorem number_eq (digits : List Char) : number digits = Nat.ofDigitChars 10 digits 0 :=
  Nat.ofDigitChars_eq_foldl.symm

theorem number_toDigits (n : Nat) : number (Nat.toDigits 10 n) = n := by
  rw [number_eq, Nat.ofDigitChars_ten_toDigits]

theorem isDigit_of_mem_toDigits {n : Nat} {c : Char} (hc : c ∈ Nat.toDigits 10 n) :
    c.isDigit = true :=
  Nat.isDigit_of_mem_toDigits (by decide) (by decide) hc

theorem number_concat (front : List Char) (c : Char) :
    number (front ++ [c]) = 10 * number front + (c.toNat - 48) := by
  simp only [number, List.foldl_append, List.foldl_cons, List.foldl_nil]
  rfl

theorem toDigits_of_isDigit {c : Char} (hc : c.isDigit = true) :
    Nat.toDigits 10 (c.toNat - 48) = [c] := by
  obtain ⟨hleast, hmost⟩ := toNat_of_isDigit hc
  have hchar : Nat.digitChar (c.toNat - 48) = c := by
    apply Char.toNat_inj.mp
    rw [Nat.toNat_digitChar_of_lt_ten (by omega)]
    omega
  rw [Nat.toDigits_of_lt_base (by omega), hchar]

/-- Digits without a zero in front are the numeral of their number. -/
theorem toDigits_number {digits : List Char} (hne : digits ≠ [])
    (hdigits : ∀ c ∈ digits, c.isDigit = true) (hzero : digits.head? ≠ some '0') :
    0 < number digits ∧ Nat.toDigits 10 (number digits) = digits := by
  induction digits using List.reverseRecOn with
  | nil => exact absurd rfl hne
  | append_singleton front c ih =>
    have hc := hdigits c (by simp)
    obtain ⟨hleast, hmost⟩ := toNat_of_isDigit hc
    rw [number_concat]
    by_cases hfront : front = []
    · subst hfront
      have hpos : c.toNat ≠ 48 := fun h => hzero (congrArg some (Char.toNat_inj.mp h))
      refine ⟨by omega, ?_⟩
      exact (Nat.zero_add (c.toNat - 48)).symm ▸ toDigits_of_isDigit hc
    · rw [List.head?_append_of_ne_nil _ hfront] at hzero
      obtain ⟨hpos, hnumeral⟩ := ih hfront (fun d hd => hdigits d (by simp [hd])) hzero
      refine ⟨by omega, ?_⟩
      rw [← Nat.toDigits_append_toDigits (by decide) hpos (by omega), hnumeral,
        toDigits_of_isDigit hc]

/-- The numeral of a number that is not zero does not begin with a zero. -/
theorem head?_toDigits_ne {n : Nat} (hn : n ≠ 0) : (Nat.toDigits 10 n).head? ≠ some '0' := by
  induction n using Nat.strongRecOn with
  | ind n ih =>
    by_cases hsmall : n < 10
    · rw [Nat.toDigits_of_lt_base hsmall, List.head?_singleton, ne_eq, Option.some_inj,
        Nat.digitChar_eq_zero]
      exact hn
    · rw [Nat.toDigits_of_base_le (by decide) (by omega),
        List.head?_append_of_ne_nil _ Nat.toDigits_ne_nil]
      exact ih (n / 10) (by omega) (by omega)

/-- A part of an address is the numeral of a byte. -/
theorem readOctet?_eq_some_iff {s : List Char} {byte : BitVec 8} :
    readOctet? s = some byte ↔ s = Nat.toDigits 10 byte.toNat := by
  unfold readOctet?
  constructor
  · intro hread
    split at hread
    · next hoctet =>
      obtain ⟨hne, hdigits, -, hzero, hmost⟩ := hoctet
      obtain rfl := Option.some_inj.mp hread
      rw [BitVec.toNat_ofNat, Nat.mod_eq_of_lt (by omega)]
      obtain rfl | hzero := hzero
      · rfl
      · exact (toDigits_number hne (List.all_eq_true.mp hdigits) hzero).2.symm
    · cases hread
  · rintro rfl
    have hbyte : byte.toNat < 10 ^ 3 := Nat.lt_trans byte.isLt (by decide)
    have hlength : (Nat.toDigits 10 byte.toNat).length ≤ 3 :=
      (Nat.length_toDigits_le_iff (by decide) (by decide)).mpr hbyte
    have hzero : Nat.toDigits 10 byte.toNat = ['0'] ∨
        (Nat.toDigits 10 byte.toNat).head? ≠ some '0' := by
      by_cases hn : byte.toNat = 0
      · exact .inl (hn ▸ Nat.toDigits_zero 10)
      · exact .inr (head?_toDigits_ne hn)
    rw [number_toDigits, if_pos, BitVec.ofNat_toNat, BitVec.setWidth_eq]
    exact ⟨Nat.toDigits_ne_nil, List.all_eq_true.mpr fun c hc => isDigit_of_mem_toDigits hc,
      hlength, hzero, Nat.le_of_lt_succ byte.isLt⟩

end Numerals

section Quads

/-- The four bytes of an address, the first one in front. -/
def bytes (address : Address) : List (BitVec 8) :=
  [address.extractLsb' 24 8, address.extractLsb' 16 8, address.extractLsb' 8 8,
    address.extractLsb' 0 8]

/-- An address as it is written: the numerals of its bytes with dots between them. -/
def spell (address : Address) : List Char :=
  ['.'].intercalate ((bytes address).map fun byte => Nat.toDigits 10 byte.toNat)

theorem bytes_append (a b c d : BitVec 8) : bytes (a ++ b ++ c ++ d) = [a, b, c, d] := by
  simp only [bytes, List.cons.injEq, and_true]
  refine ⟨?_, ?_, ?_, ?_⟩ <;> ext i hi <;> grind

theorem append_bytes (address : Address) :
    address.extractLsb' 24 8 ++ address.extractLsb' 16 8 ++ address.extractLsb' 8 8 ++
      address.extractLsb' 0 8 = address := by
  ext i hi
  grind

theorem mapM_eq_some_iff_eq_map {α β : Type} {read : α → Option β} {write : β → α}
    (hread : ∀ x y, read x = some y ↔ x = write y) {xs : List α} {ys : List β} :
    xs.mapM read = some ys ↔ xs = ys.map write := by
  induction xs generalizing ys with
  | nil => cases ys <;> simp
  | cons x rest ih =>
    simp only [List.mapM_cons, Option.bind_eq_bind, Option.bind_eq_some_iff, Option.pure_def,
      Option.some_inj]
    constructor
    · rintro ⟨y, hy, others, hothers, rfl⟩
      rw [List.map_cons, ← (hread x y).mp hy, ← ih.mp hothers]
    · intro hys
      cases ys with
      | nil => cases hys
      | cons y others =>
        rw [List.map_cons, List.cons.injEq] at hys
        exact ⟨y, (hread x y).mpr hys.1, others, ih.mpr hys.2, rfl⟩

theorem mem_intercalate {sep : List Char} {words : List (List Char)} {c : Char}
    (hc : c ∈ sep.intercalate words) : (∃ word ∈ words, c ∈ word) ∨ c ∈ sep := by
  induction words with
  | nil => simp at hc
  | cons word rest ih =>
    cases rest with
    | nil => exact .inl ⟨word, List.mem_cons_self, by simpa using hc⟩
    | cons second others =>
      rw [List.intercalate_cons_cons, List.append_assoc, List.mem_append, List.mem_append] at hc
      obtain hword | hsep | hrest := hc
      · exact .inl ⟨word, List.mem_cons_self, hword⟩
      · exact .inr hsep
      · refine (ih hrest).imp_left ?_
        rintro ⟨other, hother, hmem⟩
        exact ⟨other, List.mem_cons_of_mem word hother, hmem⟩

theorem dot_not_mem_numerals (address : Address) :
    ∀ word ∈ (bytes address).map fun byte => Nat.toDigits 10 byte.toNat, '.' ∉ word := by
  intro word hword hdot
  obtain ⟨byte, _, rfl⟩ := List.mem_map.mp hword
  exact absurd (isDigit_of_mem_toDigits hdot) (by decide)

/-- What is read as an address is exactly what an address is written as. -/
theorem readAddress?_eq_some_iff {s : List Char} {address : Address} :
    readAddress? s = some address ↔ s = spell address := by
  have hsplit : s.splitOn '.' = (bytes address).map (fun byte => Nat.toDigits 10 byte.toNat) ↔
      s = spell address := by
    constructor
    · intro hwords
      rw [spell, ← hwords, List.intercalate_splitOn]
    · rintro rfl
      exact List.splitOn_intercalate '.' (dot_not_mem_numerals address) (List.cons_ne_nil _ _)
  rw [← hsplit, ← mapM_eq_some_iff_eq_map fun _ _ => readOctet?_eq_some_iff]
  unfold readAddress?
  constructor
  · intro hread
    split at hread
    · next a b c d hbytes => rw [hbytes, ← Option.some_inj.mp hread, bytes_append]
    · cases hread
  · intro hbytes
    rw [hbytes]
    exact congrArg some (append_bytes address)

theorem mem_spell {address : Address} {c : Char} (hc : c ∈ spell address) :
    c.isDigit = true ∨ c = '.' := by
  obtain ⟨word, hword, hc⟩ | hdot := mem_intercalate hc
  · obtain ⟨byte, _, rfl⟩ := List.mem_map.mp hword
    exact .inl (isDigit_of_mem_toDigits hc)
  · exact .inr (List.mem_singleton.mp hdot)

end Quads

end AllowPolicy.Ipv4
