import AllowPolicy.Text.Surrogate

namespace AllowPolicy

/-- The characters from a number on stand for the surrogates, in their order. -/
@[reducible]
def Surrogates.block (first : Nat) (haside : 0xf0000 ≤ first) : Surrogates where
  number? c :=
    if first ≤ c.toNat ∧ c.toNat < first + 0x800 then some (0xd800 + (c.toNat - first)) else none
  surrogate c n hnumber := by
    split at hnumber
    · cases hnumber
      omega
    · cases hnumber
  aside c n hnumber := by
    split at hnumber
    · omega
    · cases hnumber

theorem Surrogates.number?_block (first : Nat) (haside : 0xf0000 ≤ first) (c : Char) :
    (Surrogates.block first haside).number? c =
      if first ≤ c.toNat ∧ c.toNat < first + 0x800 then some (0xd800 + (c.toNat - first))
      else none := rfl

namespace Text

/-- The code points of a text. -/
def points [Surrogates] (s : String) : List Nat :=
  s.toList.map fun c => (Surrogates.number? c).getD c.toNat

/-- The code point is that of a surrogate. -/
def IsSurrogate (n : Nat) : Prop := 0xd800 ≤ n ∧ n < 0xe000

theorem not_isSurrogate_toNat (c : Char) : ¬ IsSurrogate c.toNat := by
  rintro ⟨hleast, hmost⟩
  obtain hlow | ⟨hhigh, _⟩ := c.valid
  · exact absurd hlow (Nat.not_lt.mpr hleast)
  · exact absurd hmost (Nat.not_lt.mpr hhigh)

/-- A text is whole exactly if no surrogate is among its code points. -/
theorem isWhole_iff [Surrogates] (s : String) :
    isWhole s = true ↔ ∀ n ∈ points s, ¬ IsSurrogate n := by
  simp only [isWhole, points, List.all_eq_true, List.mem_map, forall_exists_index, and_imp,
    forall_apply_eq_imp_iff₂]
  refine forall₂_congr fun c _ => ?_
  cases hnumber : Surrogates.number? c with
  | none => simp [isStandIn, hnumber, not_isSurrogate_toNat]
  | some n =>
    have hsurrogate : IsSurrogate n := Surrogates.surrogate c n hnumber
    simp [isStandIn, hnumber, hsurrogate]

theorem toNat_ofNat {n : Nat} (hvalid : n.isValidChar) : (Char.ofNat n).toNat = n := by
  rw [Char.ofNat, dif_pos hvalid]
  rfl

/-- Texts are all sequences of code points: of the characters beside a block each stands for itself,
    and those of the block stand for the surrogates. -/
theorem exists_points_eq {first : Nat} (haside : 0xf0000 ≤ first) (hroom : first + 0x800 ≤ 0x110000)
    {ns : List Nat} (hpoints : ∀ n ∈ ns, n < 0x110000 ∧ ¬ (first ≤ n ∧ n < first + 0x800)) :
    letI := Surrogates.block first haside
    ∃ s, points s = ns := by
  let write (n : Nat) : Char :=
    Char.ofNat (if 0xd800 ≤ n ∧ n < 0xe000 then first + (n - 0xd800) else n)
  refine ⟨.ofList (ns.map write), ?_⟩
  simp only [points, String.toList_ofList, List.map_map]
  refine (List.map_congr_left fun n hn => ?_).trans ns.map_id
  obtain ⟨hmost, hbeside⟩ := hpoints n hn
  by_cases hsurrogate : 0xd800 ≤ n ∧ n < 0xe000
  · have hchar : (write n).toNat = first + (n - 0xd800) := by
      simp only [write, if_pos hsurrogate]
      exact toNat_ofNat (.inr ⟨by omega, by omega⟩)
    rw [Function.comp, Surrogates.number?_block, hchar, if_pos (by omega), Option.getD_some, id]
    omega
  · have hchar : (write n).toNat = n := by
      simp only [write, if_neg hsurrogate]
      refine toNat_ofNat ?_
      by_cases hlow : n < 0xd800
      · exact .inl hlow
      · exact .inr ⟨by omega, hmost⟩
    rw [Function.comp, Surrogates.number?_block, hchar, if_neg hbeside, Option.getD_none, id]

end Text

end AllowPolicy
