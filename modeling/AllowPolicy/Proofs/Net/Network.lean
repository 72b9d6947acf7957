import AllowPolicy.Proofs.Net.Address

namespace AllowPolicy.Ipv4

open AllowPolicy.Text

/-- The first bits of both addresses agree, this many of them. -/
def Share (bits : Nat) (one other : Address) : Prop :=
  ∀ i < bits, one.getMsbD i = other.getMsbD i

instance (bits : Nat) (one other : Address) : Decidable (Share bits one other) :=
  inferInstanceAs (Decidable (∀ i < bits, one.getMsbD i = other.getMsbD i))

theorem Share.trans {bits : Nat} {one other third : Address} (hone : Share bits one other)
    (hother : Share bits other third) : Share bits one third :=
  fun i hi => (hone i hi).trans (hother i hi)

theorem Share.symm {bits : Nat} {one other : Address} (hshare : Share bits one other) :
    Share bits other one :=
  fun i hi => (hshare i hi).symm

theorem Share.mono {bits most : Nat} (hle : bits ≤ most) {one other : Address}
    (hshare : Share most one other) : Share bits one other :=
  fun i hi => hshare i (Nat.lt_of_lt_of_le hi hle)

theorem shiftRight_eq_iff {bits : Nat} (hbits : bits ≤ 32) (one other : Address) :
    one >>> (32 - bits) = other >>> (32 - bits) ↔ Share bits one other := by
  constructor
  · intro hshift i hi
    have hbit := congrArg (·.getMsbD (i + (32 - bits))) hshift
    have hkept : ¬ i + (32 - bits) < 32 - bits := by omega
    have hinside : i + (32 - bits) < 32 := by omega
    simpa [BitVec.getMsbD_ushiftRight, hkept, hinside] using hbit
  · intro hshare
    refine BitVec.eq_of_getMsbD_eq fun i hi => ?_
    rw [BitVec.getMsbD_ushiftRight, BitVec.getMsbD_ushiftRight]
    by_cases hfront : i < 32 - bits
    · simp [hfront]
    · rw [hshare (i - (32 - bits)) (by omega)]

theorem Network.contains_iff (network : Network) (address : Address) :
    network.contains address = true ↔ Share network.bits network.base address := by
  rw [contains, beq_iff_eq, eq_comm, shiftRight_eq_iff network.bits_le]

section Masks

theorem getMsbD_mask {bits i : Nat} (hi : i < 32) :
    (mask bits).getMsbD i = decide (i < bits) := by
  rw [mask, BitVec.getMsbD_shiftLeft, BitVec.getMsbD_allOnes]
  exact decide_eq_decide.mpr (by omega)

theorem mask_injective {bits other : Nat} (hbits : bits ≤ 32) (hother : other ≤ 32)
    (hmask : mask bits = mask other) : bits = other := by
  have hbit (i : Nat) (hi : i < 32) : i < bits ↔ i < other := by
    have hsame := congrArg (·.getMsbD i) hmask
    simpa [getMsbD_mask hi] using hsame
  by_contra hne
  rcases Nat.lt_or_gt_of_ne hne with hlt | hlt
  · exact absurd ((hbit bits (by omega)).mpr hlt) (Nat.lt_irrefl bits)
  · exact absurd ((hbit other (by omega)).mp hlt) (Nat.lt_irrefl other)

/-- A mask with ones and zeros is not the complement of a mask. -/
theorem mask_ne_not {bits other : Nat} (hpos : 0 < bits) (hlt : bits < 32) :
    mask other ≠ ~~~mask bits := by
  intro hmask
  have hbit (i : Nat) (hi : i < 32) : i < other ↔ ¬ i < bits := by
    have hsame := congrArg (·.getMsbD i) hmask
    simpa [BitVec.getMsbD_not, getMsbD_mask hi, hi, ← decide_not] using hsame
  have hfirst := hbit 0 (by decide)
  have hlast := hbit 31 (by decide)
  omega

theorem maskBits?_eq_some_iff {m : Address} {bits : Nat} :
    maskBits? m = some bits ↔ bits ≤ 32 ∧ m = mask bits := by
  constructor
  · intro hfound
    have hmask := List.find?_some hfound
    exact ⟨maskBits?_le hfound, (of_decide_eq_true hmask).symm⟩
  · rintro ⟨hbits, rfl⟩
    cases hfound : maskBits? (mask bits) with
    | none =>
      have hnone := List.find?_eq_none.mp hfound bits (List.mem_range.mpr (by omega))
      simp at hnone
    | some other =>
      have hmask := List.find?_some hfound
      rw [mask_injective (maskBits?_le hfound) hbits (of_decide_eq_true hmask)]

/-- What is no mask itself and the complement of one has ones and zeros. -/
theorem or_maskBits?_eq_some_iff {m : Address} {bits : Nat} :
    (maskBits? m).or (maskBits? (~~~m)) = some bits ↔
      (bits ≤ 32 ∧ m = mask bits) ∨ (0 < bits ∧ bits < 32 ∧ m = ~~~mask bits) := by
  rw [Option.or_eq_some_iff, maskBits?_eq_some_iff]
  refine or_congr_right ⟨?_, ?_⟩
  · rintro ⟨hnone, hsome⟩
    obtain ⟨hbits, hmask⟩ := maskBits?_eq_some_iff.mp hsome
    have hm : m = ~~~mask bits := by rw [← hmask, BitVec.not_not]
    -- All ones and all zeros are masks themselves, which leaves no room for the two ends.
    have hother (other : Nat) (hle : other ≤ 32) : m ≠ mask other := by
      intro heq
      rw [maskBits?_eq_some_iff.mpr ⟨hle, heq⟩] at hnone
      cases hnone
    refine ⟨Nat.pos_of_ne_zero ?_, Nat.lt_of_le_of_ne hbits ?_, hm⟩
    · rintro rfl
      exact hother 32 (Nat.le_refl 32) (hm.trans (by decide))
    · rintro rfl
      exact hother 0 (Nat.zero_le 32) (hm.trans (by decide))
  · rintro ⟨hpos, hlt, rfl⟩
    refine ⟨?_, maskBits?_eq_some_iff.mpr ⟨Nat.le_of_lt hlt, BitVec.not_not⟩⟩
    cases hfound : maskBits? (~~~mask bits) with
    | none => rfl
    | some other => exact absurd (maskBits?_eq_some_iff.mp hfound).2.symm (mask_ne_not hpos hlt)

end Masks

section Lengths

theorem number_dropWhile (s : List Char) : number (s.dropWhile (· = '0')) = number s := by
  induction s with
  | nil => rfl
  | cons c rest ih =>
    by_cases hc : c = '0'
    · subst hc
      rw [List.dropWhile_cons_of_pos (by decide), ih]
      rfl
    · rw [List.dropWhile_cons_of_neg (by simpa using hc)]

/-- A small number has few digits but for zeros in front. -/
theorem length_dropWhile_le_two {s : List Char} (hdigits : ∀ c ∈ s, c.isDigit = true)
    (hsmall : number s ≤ 32) : (s.dropWhile (· = '0')).length ≤ 2 := by
  by_cases hnil : s.dropWhile (· = '0') = []
  · simp [hnil]
  · have hzero : (s.dropWhile (· = '0')).head? ≠ some '0' := by
      intro hhead
      have hnot := List.head?_dropWhile_not (fun c : Char => decide (c = '0')) s
      rw [hhead] at hnot
      simp at hnot
    have hfew := (toDigits_number hnil
      (fun c hc => hdigits c (List.dropWhile_subset _ hc)) hzero).2
    rw [← hfew, number_dropWhile]
    exact (Nat.length_toDigits_le_iff (by decide) (by decide)).mpr (by omega)

theorem readBits?_of_digits {s : List Char} (hne : s ≠ []) (hdigits : s.all Char.isDigit = true) :
    (readBits? s).map Subtype.val =
      if s.length ≤ mostDigits ∧ number s ≤ 32 then some (number s) else none := by
  unfold readBits?
  rw [if_pos ⟨hne, hdigits⟩]
  by_cases hsmall : s.length ≤ mostDigits ∧ number s ≤ 32
  · have hfew := length_dropWhile_le_two (List.all_eq_true.mp hdigits) hsmall.2
    rw [dif_pos ⟨hsmall.1, hfew, (number_dropWhile s).symm ▸ hsmall.2⟩, if_pos hsmall]
    exact congrArg some (number_dropWhile s)
  · rw [dif_neg (fun h => hsmall ⟨h.1, number_dropWhile s ▸ h.2.2⟩), if_neg hsmall]
    rfl

theorem readBits?_of_not_digits {s : List Char} (hother : ¬ (s ≠ [] ∧ s.all Char.isDigit = true)) :
    (readBits? s).map Subtype.val =
      (readAddress? s).bind fun m => (maskBits? m).or (maskBits? (~~~m)) := by
  unfold readBits?
  rw [if_neg hother]
  cases readAddress? s with
  | none => rfl
  | some m =>
    simp only [Option.bind_some]
    split
    · next bits hfound =>
      change some bits = _
      rw [hfound]
      rfl
    · next hnone =>
      rw [hnone]
      split
      · next bits hfound =>
        change some bits = _
        rw [hfound]
        rfl
      · next hnone =>
        rw [hnone]
        rfl

/-- A network length as it is written: as a number, zeros in front included if they are not beyond
    what is read as one, as a mask with that many ones, or as the complement of a mask that has ones
    and zeros. -/
inductive Measures : List Char → Nat → Prop where
  | number {digits : List Char} (hne : digits ≠ []) (hdigits : ∀ c ∈ digits, c.isDigit = true)
      (hshort : digits.length ≤ mostDigits) (hbits : Nat.ofDigitChars 10 digits 0 ≤ 32) :
      Measures digits (Nat.ofDigitChars 10 digits 0)
  | netmask {bits : Nat} (hbits : bits ≤ 32) : Measures (spell (mask bits)) bits
  | hostmask {bits : Nat} (hpos : 0 < bits) (hlt : bits < 32) :
      Measures (spell (~~~mask bits)) bits

theorem dot_mem_spell (address : Address) : '.' ∈ spell address := by
  rw [spell, bytes, List.map_cons, List.map_cons, List.intercalate_cons_cons]
  simp

theorem readBits?_eq_some_iff {s : List Char} {bits : Nat} :
    (readBits? s).map Subtype.val = some bits ↔ Measures s bits := by
  have hspelt (address : Address) : ¬ (spell address).all Char.isDigit = true := by
    intro hall
    exact absurd (List.all_eq_true.mp hall '.' (dot_mem_spell address)) (by decide)
  by_cases hdigits : s ≠ [] ∧ s.all Char.isDigit = true
  · rw [readBits?_of_digits hdigits.1 hdigits.2, number_eq]
    constructor
    · intro hread
      split at hread
      · next hsmall =>
        obtain rfl := Option.some_inj.mp hread
        exact .number hdigits.1 (List.all_eq_true.mp hdigits.2) hsmall.1 hsmall.2
      · cases hread
    · intro hmeasures
      cases hmeasures with
      | number _ _ hshort hbits => rw [if_pos ⟨hshort, hbits⟩]
      | netmask _ => exact absurd hdigits.2 (hspelt _)
      | hostmask _ _ => exact absurd hdigits.2 (hspelt _)
  · rw [readBits?_of_not_digits hdigits]
    simp only [Option.bind_eq_some_iff, readAddress?_eq_some_iff, or_maskBits?_eq_some_iff]
    constructor
    · rintro ⟨m, rfl, ⟨hbits, rfl⟩ | ⟨hpos, hlt, rfl⟩⟩
      · exact .netmask hbits
      · exact .hostmask hpos hlt
    · intro hmeasures
      cases hmeasures with
      | number hne hall _ _ => exact absurd ⟨hne, List.all_eq_true.mpr hall⟩ hdigits
      | netmask hbits => exact ⟨_, rfl, .inl ⟨hbits, rfl⟩⟩
      | hostmask hpos hlt => exact ⟨_, rfl, .inr ⟨hpos, hlt, rfl⟩⟩

end Lengths

section Patterns

/-- A network as a pattern names it: by an address in it, alone or with a length behind a slash, and
    so by the number of bits that its addresses share. -/
inductive Names : List Char → Address → Nat → Prop where
  | single (base : Address) : Names (spell base) base 32
  | block (base : Address) {length : List Char} {bits : Nat} (hlength : Measures length bits) :
      Names (spell base ++ '/' :: length) base bits

theorem not_mem_spell {c : Char} (hdigit : c.isDigit = false) (hdot : c ≠ '.')
    (address : Address) : c ∉ spell address := by
  intro hc
  obtain hmem | hmem := mem_spell hc
  · exact absurd hmem (by simp [hdigit])
  · exact hdot hmem

theorem Measures.not_mem {length : List Char} {bits : Nat} (hlength : Measures length bits)
    {c : Char} (hdigit : c.isDigit = false) (hdot : c ≠ '.') : c ∉ length := by
  cases hlength with
  | number _ hdigits _ _ =>
    intro hc
    exact absurd (hdigits c hc) (by simp [hdigit])
  | netmask _ => exact not_mem_spell hdigit hdot _
  | hostmask _ _ => exact not_mem_spell hdigit hdot _

theorem Names.not_mem {pattern : List Char} {base : Address} {bits : Nat}
    (hnames : Names pattern base bits) {c : Char} (hdigit : c.isDigit = false) (hdot : c ≠ '.')
    (hslash : c ≠ '/') : c ∉ pattern := by
  cases hnames with
  | single => exact not_mem_spell hdigit hdot base
  | block _ hlength =>
    rw [List.mem_append, List.mem_cons, not_or, not_or]
    exact ⟨not_mem_spell hdigit hdot base, hslash, hlength.not_mem hdigit hdot⟩

theorem readNetwork?_eq_some_iff {s : List Char} {base : Address} {bits : Nat} :
    (readNetwork? s).map (fun network => (network.base, network.bits)) = some (base, bits) ↔
      Names s base bits := by
  have hslash : '/' ∉ spell base := not_mem_spell (by decide) (by decide) base
  unfold readNetwork?
  constructor
  · intro hread
    have hspelt : List.intercalate ['/'] (s.splitOn '/') = s := List.intercalate_splitOn '/'
    split at hread
    · next address hsplit =>
      rw [hsplit, List.intercalate_singleton] at hspelt
      rw [Option.map_map, Option.map_eq_some_iff] at hread
      obtain ⟨found, haddress, hnetwork⟩ := hread
      obtain ⟨rfl, rfl⟩ := Prod.mk.inj hnetwork
      rw [← hspelt, readAddress?_eq_some_iff.mp haddress]
      exact .single found
    · next address length hsplit =>
      rw [hsplit, List.intercalate_cons_cons, List.intercalate_singleton] at hspelt
      split at hread
      · next found most hle haddress hlength =>
        obtain ⟨rfl, rfl⟩ := Prod.mk.inj (Option.some_inj.mp hread)
        have hmeasures := readBits?_eq_some_iff.mp (congrArg (·.map Subtype.val) hlength)
        rw [← hspelt, readAddress?_eq_some_iff.mp haddress, List.append_assoc]
        exact .block found hmeasures
      · cases hread
    · cases hread
  · intro hnames
    cases hnames with
    | single =>
      rw [List.splitOn_eq_singleton hslash]
      simp only [readAddress?_eq_some_iff.mpr rfl]
      rfl
    | block _ hlength =>
      rw [List.splitOn_append_cons_self_of_not_mem hslash,
        List.splitOn_eq_singleton (hlength.not_mem (by decide) (by decide))]
      obtain ⟨⟨bits, hle⟩, hread, rfl⟩ :=
        Option.map_eq_some_iff.mp (readBits?_eq_some_iff.mpr hlength)
      simp only [readAddress?_eq_some_iff.mpr rfl, hread]
      rfl

/-- A pattern names one network at most. -/
theorem Names.unique {pattern : List Char} {base other : Address} {bits most : Nat}
    (hnames : Names pattern base bits) (hother : Names pattern other most) :
    base = other ∧ bits = most := by
  rw [← readNetwork?_eq_some_iff] at hnames hother
  exact Prod.mk.inj (Option.some_inj.mp (hnames.symm.trans hother))

theorem isMatch_iff {pattern address : String} :
    isMatch pattern address = true ↔
      ∃ base bits target, Names pattern.toList base bits ∧ address.toList = spell target ∧
        Share bits base target := by
  unfold isMatch
  constructor
  · intro hmatch
    split at hmatch
    · next network target hnetwork haddress =>
      exact ⟨network.base, network.bits, target,
        readNetwork?_eq_some_iff.mp (congrArg (Option.map _) hnetwork),
        readAddress?_eq_some_iff.mp haddress, (network.contains_iff target).mp hmatch⟩
    · cases hmatch
  · rintro ⟨base, bits, target, hnames, haddress, hshare⟩
    obtain ⟨network, hnetwork, hsame⟩ :=
      Option.map_eq_some_iff.mp (readNetwork?_eq_some_iff.mpr hnames)
    obtain ⟨rfl, rfl⟩ := Prod.mk.inj hsame
    rw [hnetwork, readAddress?_eq_some_iff.mpr haddress]
    exact (network.contains_iff target).mpr hshare

/-- What a pattern matches lies in every wider network around the one that it names. -/
theorem isMatch_of_share {inner outer address : String} {base other : Address} {bits most : Nat}
    (hinner : Names inner.toList base most) (houter : Names outer.toList other bits)
    (hle : bits ≤ most) (hshare : Share bits other base) (hmatch : isMatch inner address = true) :
    isMatch outer address = true := by
  obtain ⟨found, depth, target, hnames, haddress, hwithin⟩ := isMatch_iff.mp hmatch
  obtain ⟨rfl, rfl⟩ := hnames.unique hinner
  exact isMatch_iff.mpr ⟨other, bits, target, houter, haddress, hshare.trans (hwithin.mono hle)⟩

/-- A pattern matches exactly the addresses, written as dotted quads, whose first bits are those of
    the network that it names; text that names none, and text with a colon on either side, is no
    match. So the bits behind the length do not count, and a network within another matches nothing
    that the other does not. -/
theorem isMatch_iff_share (pattern address : String) :
    (isMatch pattern address = true ↔
        ∃ base bits target, Names pattern.toList base bits ∧ address.toList = spell target ∧
          Share bits base target) ∧
      (':' ∈ pattern.toList ∨ ':' ∈ address.toList → isMatch pattern address = false) ∧
      ∀ (other : String) (base inner : Address) (bits most : Nat),
        Names pattern.toList base bits → Names other.toList inner most → bits ≤ most →
          Share bits base inner →
            (isMatch other address = true → isMatch pattern address = true) ∧
              (bits = most → isMatch other address = isMatch pattern address) := by
  refine ⟨isMatch_iff, fun hcolon => ?_, fun other base inner bits most hnames hother hle hshare =>
    ⟨isMatch_of_share hother hnames hle hshare, ?_⟩⟩
  · rw [Bool.eq_false_iff]
    intro hmatch
    obtain ⟨base, bits, target, hnames, haddress, _⟩ := isMatch_iff.mp hmatch
    obtain hpattern | haddr := hcolon
    · exact hnames.not_mem (by decide) (by decide) (by decide) hpattern
    · rw [haddress] at haddr
      exact not_mem_spell (by decide) (by decide) target haddr
  · rintro rfl
    rw [Bool.eq_iff_iff]
    exact ⟨isMatch_of_share hother hnames hle hshare,
      isMatch_of_share hnames hother hle hshare.symm⟩

/-- A block with bits of a host in it, and one written with a hostmask inside it. -/
theorem isMatch_iff_share_block :
    isMatch "10.0.0.7/8" "::ffff:10.1.2.3" = false ∧
      (Names "10.0.0.7/8".toList 0x0a000007 8 ∧ Names "10.1.2.3/0.0.255.255".toList 0x0a010203 16 ∧
        isMatch "10.1.2.3/0.0.255.255" "10.1.200.9" = true) ∧
      isMatch "10.0.0.7/8" "10.1.200.9" = true := by
  have houter : Names "10.0.0.7/8".toList 0x0a000007 8 :=
    readNetwork?_eq_some_iff.mp (by decide)
  have hinner : Names "10.1.2.3/0.0.255.255".toList 0x0a010203 16 :=
    readNetwork?_eq_some_iff.mp (by decide +kernel)
  have hmatch : isMatch "10.1.2.3/0.0.255.255" "10.1.200.9" = true := by decide +kernel
  refine ⟨(isMatch_iff_share _ _).2.1 (.inr (by decide)), ⟨houter, hinner, hmatch⟩, ?_⟩
  exact ((isMatch_iff_share _ "10.1.200.9").2.2 _ _ _ _ _ houter hinner (by decide)
    (by decide)).1 hmatch

end Patterns

end AllowPolicy.Ipv4
