import AllowPolicy.Proofs.Yaml.Parts

namespace AllowPolicy.Yaml.Scalar

open Text

/-- How a text has the form of a number or of a point in time and is none, and the failure that
    says so. -/
inductive Unvalued (s : List Char) : Failure → Prop
  /-- No digit follows the mark of a base. -/
  | bare {mark base rest} (hform : Tag.unsigned s = '0' :: mark :: rest)
      (hmark : (mark, base) ∈ [('b', 2), ('x', 16)]) (hempty : ∀ c ∈ rest, c = '_') :
      Unvalued s (.badValue ("invalid literal for int() with base " ++ toString base ++ ": " ++
        Text.quoted ""))
  /-- An integer, or a part of one to base sixty, has too many digits. -/
  | long {digits failure} (hpart : digits ∈ ((Tag.unsigned s).filter (· ≠ '_')).splitOn ':')
      (hmany : Decimal.mostDigits < digits.length)
      (hfailed : .tooManyDigits digits.length = Problem.failed failure) : Unvalued s failure
  /-- A number to base sixty with a point has too many parts. -/
  | vast (hmany : 174 < ((Tag.unsigned s).splitOn ':').length) :
      Unvalued s (.overflow "int too large to convert to float")
  /-- There is no such date, time of day or distance from universal time. -/
  | stamp {stamp message} (hread : Stamp.read? s = some stamp)
      (hfault : stamp.fault? = some message) : Unvalued s (.badValue message)

section Integers

theorem failed_decimal {digits : List Char} {failure : Failure} (hdigits : ∀ c ∈ digits, c.isDigit)
    (hne : digits ≠ []) (hfailed : decimal digits = .error (.failed failure)) :
    Decimal.mostDigits < digits.length ∧ .tooManyDigits digits.length = Problem.failed failure := by
  unfold decimal at hfailed
  obtain ⟨hmany, hspelled⟩ | ⟨n, hspelled⟩ := Decimal.spelled_of_isDigit hdigits hne
  · rw [hspelled] at hfailed
    exact ⟨hmany, Except.error.inj hfailed⟩
  · rw [hspelled] at hfailed
    cases hfailed

/-- A digit of the base, which is no sign and not its mark. -/
structure IsDigitOf (base : Nat) (mark c : Char) : Prop where
  digit : (digitOf? base c).isSome
  visible : IsVisible c
  unsigned : c ≠ '-' ∧ c ≠ '+'
  unmarked : c.toLower ≠ mark

theorem isDigitOf_of_isDigit {base : Nat} {mark c : Char} (hdigit : c.isDigit)
    (hbase : c.toNat < 48 + base) (hmark : mark.isDigit = false) : IsDigitOf base mark c := by
  obtain ⟨hleast, hmost⟩ := toNat_of_isDigit hdigit
  have hlower := toLower_of_isDigit hdigit
  have hletter : ¬ ('a' ≤ c ∧ c ≤ 'f') := by
    rintro ⟨ha, -⟩
    have : 97 ≤ c.toNat := ha
    omega
  refine ⟨?_, isVisible_of_isDigit hdigit, ⟨ne_of_isDigit hdigit rfl, ne_of_isDigit hdigit rfl⟩, ?_⟩
  · rw [digitOf?, hlower]
    simp only [if_neg hletter, digitValue?_of_isDigit hdigit]
    rw [Option.filter_some_pos (by simp; omega)]
    rfl
  · rw [hlower]
    exact ne_of_isDigit hdigit hmark

theorem isDigitOf_of_isHexDigit {c : Char}
    (hdigit : c.isDigit || ('a' ≤ c.toLower && c.toLower ≤ 'f')) : IsDigitOf 16 'x' c := by
  by_cases hdecimal : c.isDigit
  · have := toNat_of_isDigit hdecimal
    exact isDigitOf_of_isDigit hdecimal (by omega) rfl
  · simp only [hdecimal, Bool.false_or, Bool.and_eq_true, decide_eq_true_eq] at hdigit
    have hleast : 97 ≤ c.toLower.toNat := hdigit.1
    have hmost : c.toLower.toNat ≤ 102 := hdigit.2
    have hplain : 65 ≤ c.toNat ∧ c.toNat ≤ 102 := by
      rw [toNat_toLower] at hleast hmost
      split at hleast <;> split at hmost <;> omega
    have hne {other : Char} (hother : other.toNat < 65) : c ≠ other := by
      rintro rfl
      omega
    refine ⟨?_, ⟨by omega, by omega⟩, ⟨hne (by decide), hne (by decide)⟩, ?_⟩
    · rw [digitOf?]
      simp only [if_pos hdigit]
      rw [Option.filter_some_pos (by simp; omega)]
      rfl
    · intro hmark
      rw [hmark] at hmost
      exact absurd hmost (by decide)

theorem inBase_eq_ok {base : Nat} {mark : Char} {s : List Char} (hne : s ≠ [])
    (hdigits : ∀ c ∈ s, IsDigitOf base mark c) : ∃ n, inBase base mark s = .ok n := by
  have hmark : unmarked mark s = s := by
    unfold unmarked
    split
    · rename_i c rest
      exact if_neg (hdigits c (by simp)).unmarked
    · rfl
  have hread : (Decimal.readInBase? base (digitOf? base) s).isSome :=
    Decimal.readInBase?_isSome (fun c hmem => (hdigits c hmem).digit) hne
  obtain ⟨n, hread⟩ := Option.isSome_iff_exists.mp hread
  refine ⟨n, ?_⟩
  unfold inBase
  rw [trim_of_isVisible fun c hmem => (hdigits c hmem).visible]
  split
  · exact absurd rfl (hdigits _ List.mem_cons_self).unsigned.1
  · exact absurd rfl (hdigits _ List.mem_cons_self).unsigned.2
  · simp only [hmark, hread]
    rfl

theorem of_isRun {p : Char → Bool} {s : List Char} (hrun : Tag.isRun p s) :
    ∀ c ∈ s.filter (· ≠ '_'), p c := by
  intro c hmem
  obtain ⟨hmem, hkept⟩ := List.mem_filter.mp hmem
  have hall := List.all_eq_true.mp (Bool.and_eq_true_iff.mp hrun).2 c hmem
  simp only [Bool.or_eq_true, decide_eq_true_eq] at hall
  exact hall.resolve_right (by simpa using hkept)

/-- A run of digits of a base is a number, unless it only has underscores. -/
theorem unvalued_of_inBase {s rest : List Char} {base : Nat} {mark : Char} {p : Char → Bool}
    {failure : Failure} (hform : Tag.unsigned s = '0' :: mark :: rest)
    (hmark : (mark, base) ∈ [('b', 2), ('x', 16)]) (hrun : Tag.isRun p rest)
    (hp : ∀ c, p c → IsDigitOf base mark c)
    (hfailed : inBase base mark (rest.filter (· ≠ '_')) = .error (.failed failure)) :
    Unvalued s failure := by
  by_cases hempty : rest.filter (· ≠ '_') = []
  · rw [hempty] at hfailed
    cases hfailed
    exact .bare hform hmark fun c hmem => by simpa using List.filter_eq_nil_iff.mp hempty c hmem
  · obtain ⟨n, hok⟩ := inBase_eq_ok hempty fun c hmem => hp c (of_isRun hrun c hmem)
    rw [hok] at hfailed
    cases hfailed

/-- A zero in front of digits below eight stands for the base. -/
theorem unsignedInt_octal {digits : List Char}
    (hdigits : ∀ c ∈ digits, c.isDigit ∧ c.toNat < 48 + 8) :
    ∃ n, unsignedInt ('0' :: digits) = .ok n := by
  cases digits with
  | nil => exact ⟨0, rfl⟩
  | cons c rest =>
    have hall (d : Char) (hmem : d ∈ '0' :: c :: rest) : IsDigitOf 8 'o' d := by
      have hdigit : d.isDigit ∧ d.toNat < 48 + 8 := by
        obtain rfl | hmem := List.mem_cons.mp hmem
        · decide
        · exact hdigits d hmem
      exact isDigitOf_of_isDigit hdigit.1 hdigit.2 rfl
    obtain ⟨n, hok⟩ := inBase_eq_ok (List.cons_ne_nil _ _) hall
    refine ⟨n, ?_⟩
    unfold unsignedInt
    split
    · rename_i heq
      cases heq
    · rename_i heq
      cases heq
      exact absurd (hdigits 'b' List.mem_cons_self).1 (by decide)
    · rename_i heq
      cases heq
      exact absurd (hdigits 'x' List.mem_cons_self).1 (by decide)
    · rename_i heq
      cases heq
      exact hok
    · rename_i heq
      cases heq
    · rename_i hother _
      exact absurd rfl (hother _)

/-- An integer in decimal parts without a zero in front. -/
theorem failed_unsignedInt_parts {c : Char} {rest : List Char} {failure : Failure} (hc : c ≠ '0')
    (hparts : ∀ part ∈ (c :: rest).splitOn ':', part ≠ [] ∧ ∀ d ∈ part, d.isDigit)
    (hfailed : unsignedInt (c :: rest) = .error (.failed failure)) :
    ∃ part ∈ (c :: rest).splitOn ':', Decimal.mostDigits < part.length ∧
      .tooManyDigits part.length = Problem.failed failure := by
  have hpart {part : List Char} (hmem : part ∈ (c :: rest).splitOn ':')
      (hfailed : decimal part = .error (.failed failure)) :=
    failed_decimal (hparts part hmem).2 (hparts part hmem).1 hfailed
  unfold unsignedInt at hfailed
  split at hfailed
  · cases hfailed
  · rename_i heq
    cases heq
    exact absurd rfl hc
  · rename_i heq
    cases heq
    exact absurd rfl hc
  · rename_i heq
    cases heq
    exact absurd rfl hc
  · rename_i heq
    cases heq
  · split at hfailed
    · obtain hfailed | ⟨_, _, hfailed⟩ := eq_error_of_bind hfailed
      · obtain ⟨part, hmem, hfailed⟩ := failed_mapM hfailed
        exact ⟨part, hmem, hpart hmem hfailed⟩
      · cases hfailed
    · rename_i hnone
      have hsingle : (c :: rest).splitOn ':' = [c :: rest] :=
        List.splitOn_eq_singleton (by simpa using hnone)
      have hmem : c :: rest ∈ (c :: rest).splitOn ':' := hsingle ▸ List.mem_singleton_self _
      exact ⟨c :: rest, hmem, hpart hmem hfailed⟩

theorem failed_unsignedInt {s : List Char} {failure : Failure}
    (hform : Tag.isUnsignedInt (Tag.unsigned s))
    (hfailed : unsignedInt ((Tag.unsigned s).filter (· ≠ '_')) = .error (.failed failure)) :
    Unvalued s failure := by
  generalize hbody : Tag.unsigned s = body at hform hfailed
  revert hform
  fun_cases Tag.isUnsignedInt body <;> intro hform
  · cases hfailed
  · rename_i rest
    refine unvalued_of_inBase hbody (by simp) hform (fun c hdigit => ?_) hfailed
    simp only [Bool.or_eq_true, decide_eq_true_eq] at hdigit
    obtain rfl | rfl := hdigit <;> exact isDigitOf_of_isDigit rfl (by decide) rfl
  · rename_i rest
    exact unvalued_of_inBase hbody (by simp) hform (fun c hdigit => isDigitOf_of_isHexDigit hdigit)
      hfailed
  · rename_i rest _ _ _
    have hdigits (c : Char) (hmem : c ∈ rest.filter (· ≠ '_')) : c.isDigit ∧ c.toNat < 48 + 8 := by
      have hoctal := of_isRun hform c hmem
      simp only [Bool.and_eq_true, decide_eq_true_eq] at hoctal
      have hleast : 48 ≤ c.toNat := hoctal.1
      have hmost : c.toNat ≤ 55 := hoctal.2
      exact ⟨Char.isDigit_iff_toNat.mpr ⟨hleast, Nat.le_trans hmost (by decide)⟩, by omega⟩
    obtain ⟨n, hok⟩ := unsignedInt_octal hdigits
    rw [List.filter_cons_of_pos (by decide), hok] at hfailed
    cases hfailed
  · rename_i hnonzero
    have hparts : HasParts body := by
      obtain hgroup | hsixtieths := Bool.or_eq_true_iff.mp hform
      · exact hasParts_of_isGroup hgroup
      · exact hasParts_of_isSixtieths hsixtieths
    have hdigits := hparts.digits
    obtain ⟨c, rest, rfl, hc⟩ := hparts.head
    rw [List.filter_cons_of_pos (by simpa using ne_of_isDigit hc rfl)] at hfailed hdigits
    have hzero : c ≠ '0' := by
      rintro rfl
      exact hnonzero rest rfl
    obtain ⟨part, hmem, hmany, hfailed⟩ := failed_unsignedInt_parts hzero hdigits hfailed
    refine .long ?_ hmany hfailed
    rw [hbody, List.filter_cons_of_pos (by simpa using ne_of_isDigit hc rfl)]
    exact hmem

/-- An integer by its form is one, unless it has no digits or too many. -/
theorem failed_int {s : List Char} {failure : Failure} (hform : Tag.isUnsignedInt (Tag.unsigned s))
    (hfailed : int s = .error (.failed failure)) : Unvalued s failure := by
  have hhead : ∃ c rest, Tag.unsigned s = c :: rest ∧ c.isDigit := by
    generalize Tag.unsigned s = body at hform
    revert hform
    fun_cases Tag.isUnsignedInt body <;> intro hform
    · exact ⟨'0', _, rfl, rfl⟩
    · exact ⟨'0', _, rfl, rfl⟩
    · exact ⟨'0', _, rfl, rfl⟩
    · exact ⟨'0', _, rfl, rfl⟩
    · obtain hgroup | hsixtieths := Bool.or_eq_true_iff.mp hform
      · exact (hasParts_of_isGroup hgroup).head
      · exact (hasParts_of_isSixtieths hsixtieths).head
  obtain ⟨c, rest, hbody, hc⟩ := hhead
  obtain ⟨negative, hsigned⟩ := signed_of_unsigned hbody (.inr hc)
  unfold int at hfailed
  rw [hsigned] at hfailed
  obtain hfailed | ⟨_, hfound, hfailed⟩ := eq_error_of_bind hfailed
  · cases hfailed
  · cases hfound
    obtain hfailed | ⟨_, _, hfailed⟩ := eq_error_of_bind hfailed
    · exact failed_unsignedInt hform (hbody ▸ hfailed)
    · cases hfailed

end Integers

section Reals

/-- In lower case and without underscores. -/
def normal (s : List Char) : List Char := (s.map Char.toLower).filter (· ≠ '_')

theorem toLower_eq_iff {c sign : Char} (hsign : sign.toNat < 65) : c.toLower = sign ↔ c = sign := by
  rw [← Char.toNat_inj, ← Char.toNat_inj, toNat_toLower]
  split <;> omega

theorem unsigned_map_toLower (s : List Char) :
    Tag.unsigned (s.map Char.toLower) = (Tag.unsigned s).map Char.toLower := by
  cases s with
  | nil => rfl
  | cons c rest =>
    simp only [List.map_cons, Tag.unsigned, toLower_eq_iff (by decide : '+'.toNat < 65),
      toLower_eq_iff (by decide : '-'.toNat < 65)]
    split <;> rfl

theorem splitOn_normal (s : List Char) : (normal s).splitOn ':' = (s.splitOn ':').map normal := by
  rw [normal, splitOn_filter (by decide), splitOn_map fun c => toLower_eq_iff (by decide),
    List.map_map]
  rfl

theorem normal_append (front back : List Char) :
    normal (front ++ back) = normal front ++ normal back := by
  simp [normal]

theorem normal_of_lower {s : List Char} (hlower : ∀ c ∈ s, c.toLower = c) :
    normal s = s.filter (· ≠ '_') := by
  rw [normal, List.map_congr_left hlower, List.map_id']

theorem IsLoose.toLower {c : Char} (hloose : IsLoose c) : c.toLower = c := by
  obtain hdigit | rfl := hloose
  · exact toLower_of_isDigit hdigit
  · rfl

theorem isDigit_of_mem_normal {s : List Char} (hloose : ∀ c ∈ s, IsLoose c) :
    ∀ c ∈ normal s, c.isDigit := by
  rw [normal_of_lower fun c hmem => (hloose c hmem).toLower]
  exact isDigit_of_mem_filter hloose

/-- What an exponent is read as. -/
theorem normal_exponent {tail : List Char} (hexponent : Tag.isExponent tail) :
    (∀ c ∈ (normal tail).head?, c.isDigit = false) ∧ (∀ c ∈ normal tail, IsVisible c ∧ c ≠ ':') ∧
      (Decimal.readExponent? (normal tail)).isSome := by
  unfold Tag.isExponent at hexponent
  split at hexponent
  · exact ⟨nofun, nofun, rfl⟩
  · rename_i e sign digits
    simp only [Bool.and_eq_true, Bool.or_eq_true, decide_eq_true_eq, Bool.not_eq_true',
      List.isEmpty_eq_false_iff, List.all_eq_true] at hexponent
    obtain ⟨⟨⟨he, hsign⟩, hne⟩, hdigits⟩ := hexponent
    have hnormal : normal (e :: sign :: digits) = 'e' :: sign :: digits := by
      have hkept : normal digits = digits := by
        rw [normal_of_lower fun c hmem => toLower_of_isDigit (hdigits c hmem), List.filter_eq_self]
        intro c hmem
        simpa using ne_of_isDigit (hdigits c hmem) rfl
      change normal ([e, sign] ++ digits) = _
      rw [normal_append, hkept]
      obtain rfl | rfl := he <;> obtain rfl | rfl := hsign <;> rfl
    rw [hnormal]
    refine ⟨?_, fun c hmem => ?_, ?_⟩
    · rintro c ⟨⟩
      rfl
    · obtain rfl | hmem := List.mem_cons.mp hmem
      · exact ⟨⟨by decide, by decide⟩, by decide⟩
      · obtain rfl | hmem := List.mem_cons.mp hmem
        · obtain rfl | rfl := hsign <;> exact ⟨⟨by decide, by decide⟩, by decide⟩
        · exact ⟨isVisible_of_isDigit (hdigits c hmem), ne_of_isDigit (hdigits c hmem) rfl⟩
    · have hdigits : ¬ (digits.isEmpty ∨ !digits.all Char.isDigit) := by
        simp [hne, List.all_eq_true.mpr hdigits]
      obtain rfl | rfl := hsign <;>
      · change (if digits.isEmpty ∨ !digits.all Char.isDigit then none else some _).isSome
        rw [if_neg hdigits]
        rfl
  · cases hexponent

theorem pointed_eq_ok {s : List Char} (hvisible : ∀ c ∈ s, IsVisible c)
    (hread : (Decimal.readReal? s).isSome) : ∃ x, pointed s = .ok x := by
  obtain ⟨x, hread⟩ := Option.isSome_iff_exists.mp hread
  refine ⟨x, ?_⟩
  rw [pointed, trim_of_isVisible hvisible, hread]

/-- A number with a point and perhaps an exponent is one. -/
theorem unsignedReal_pointed {whole run tail : List Char} (hwhole : ∀ c ∈ whole, IsLoose c)
    (hrun : ∀ c ∈ run, IsLoose c) (hexponent : Tag.isExponent tail)
    (hne : normal whole ≠ [] ∨ normal run ≠ []) :
    ∃ x, unsignedReal (normal (whole ++ '.' :: (run ++ tail))) = .ok x := by
  obtain ⟨hhead, htail, hexponent⟩ := normal_exponent hexponent
  have hwhole := isDigit_of_mem_normal hwhole
  have hrun := isDigit_of_mem_normal hrun
  have hnormal : normal (whole ++ '.' :: (run ++ tail)) =
      normal whole ++ '.' :: (normal run ++ normal tail) := by
    rw [normal_append, ← normal_append run tail]
    rfl
  have hread := Decimal.readReal?_pointed_isSome hwhole hrun hne hhead hexponent
  have hplain :
      ∀ c ∈ normal whole ++ '.' :: (normal run ++ normal tail), IsVisible c ∧ c ≠ ':' := by
    have hdigit {c : Char} (hdigit : c.isDigit) : IsVisible c ∧ c ≠ ':' :=
      ⟨isVisible_of_isDigit hdigit, ne_of_isDigit hdigit rfl⟩
    intro c hmem
    obtain hmem | hmem := List.mem_append.mp hmem
    · exact hdigit (hwhole c hmem)
    · obtain rfl | hmem := List.mem_cons.mp hmem
      · exact ⟨⟨by decide, by decide⟩, by decide⟩
      · obtain hmem | hmem := List.mem_append.mp hmem
        · exact hdigit (hrun c hmem)
        · exact htail c hmem
  rw [hnormal]
  unfold unsignedReal
  split
  · exact ⟨_, rfl⟩
  · split
    · exact ⟨_, rfl⟩
    · rw [if_neg fun hcolon => (hplain ':' (List.contains_iff_mem.mp hcolon)).2 rfl]
      exact pointed_eq_ok (fun c hmem => (hplain c hmem).1) hread

theorem isSome_ofInt? : ∀ k < 174, (Decimal.ofInt? (Nat.pow 60 k : Nat)).isSome := by
  decide +kernel

/-- Only from the part behind a hundred and seventy-four others on, a part counts too much. -/
theorem failed_sixtieths {parts : List Float} {k : Nat} {sum : Float} {failure : Failure}
    (hfailed : sixtieths parts (Nat.pow 60 k) sum = .error (.failed failure)) :
    174 < k + parts.length ∧ failure = .overflow "int too large to convert to float" := by
  -- The base of a part is sixty to the number of the parts behind it.
  induction parts generalizing k sum with
  | nil => cases hfailed
  | cons part rest ih =>
    rw [sixtieths] at hfailed
    split at hfailed
    · have hpower : Nat.pow 60 k * 60 = Nat.pow 60 (k + 1) := rfl
      rw [hpower] at hfailed
      obtain ⟨hmany, hfailure⟩ := ih hfailed
      exact ⟨by rw [List.length_cons]; omega, hfailure⟩
    · rename_i hnone
      cases hfailed
      refine ⟨Nat.lt_of_not_le fun hfew => ?_, rfl⟩
      rw [List.length_cons] at hfew
      have hsome := isSome_ofInt? k (by omega)
      rw [hnone] at hsome
      cases hsome

theorem IsPart.normal {s : List Char} (hpart : IsPart s) :
    normal s ≠ [] ∧ ∀ c ∈ normal s, c.isDigit := by
  rw [normal_of_lower fun c hmem => (hpart.loose c hmem).toLower]
  exact hpart.digits

theorem pointed_normal {whole run : List Char} (hwhole : IsPart whole)
    (hrun : ∀ c ∈ run, IsLoose c) :
    ∃ x, pointed (normal (whole ++ '.' :: run)) = .ok x := by
  obtain ⟨hne, hwhole⟩ := hwhole.normal
  have hrun := isDigit_of_mem_normal hrun
  have hnormal : normal (whole ++ '.' :: run) = normal whole ++ '.' :: (normal run ++ []) := by
    rw [normal_append, List.append_nil]
    rfl
  rw [hnormal]
  refine pointed_eq_ok (fun c hmem => ?_)
    (Decimal.readReal?_pointed_isSome hwhole hrun (.inl hne) nofun rfl)
  rw [List.append_nil] at hmem
  obtain hmem | hmem := List.mem_append.mp hmem
  · exact isVisible_of_isDigit (hwhole c hmem)
  · obtain rfl | hmem := List.mem_cons.mp hmem
    · exact ⟨by decide, by decide⟩
    · exact isVisible_of_isDigit (hrun c hmem)

/-- A number to base sixty with a point is one, unless it has too many parts. -/
theorem failed_unsignedReal_parts {whole rest : List Char} {failure : Failure}
    (hparts : HasParts whole) (hrest : ∀ c ∈ rest, IsLoose c)
    (hfailed : unsignedReal (normal (whole ++ '.' :: rest)) = .error (.failed failure)) :
    174 < ((whole ++ '.' :: rest).splitOn ':').length ∧
      failure = .overflow "int too large to convert to float" := by
  have hpointed :
      ∀ part ∈ (normal (whole ++ '.' :: rest)).splitOn ':', ∃ x, pointed part = .ok x := by
    have hback : ':' ∉ '.' :: rest := by
      rw [List.mem_cons, not_or]
      exact ⟨by decide, fun hmem => (hrest ':' hmem).elim (by decide) (by decide)⟩
    obtain ⟨init, last, hwhole, hlonger⟩ := splitOn_append hback whole
    rw [HasParts, hwhole] at hparts
    rw [splitOn_normal, hlonger, List.map_append, List.map_singleton]
    intro part hmem
    obtain hmem | hmem := List.mem_append.mp hmem
    · obtain ⟨loose, hloose, rfl⟩ := List.mem_map.mp hmem
      obtain ⟨hne, hdigits⟩ := (hparts loose (List.mem_append_left _ hloose)).normal
      exact pointed_eq_ok (fun c hmem => isVisible_of_isDigit (hdigits c hmem))
        (Decimal.readReal?_digits_isSome hdigits hne)
    · rw [List.mem_singleton.mp hmem]
      exact pointed_normal (hparts last (List.mem_append_right _ (List.mem_singleton_self _))) hrest
  -- The parts are counted as they are written, but read in lower case and without underscores.
  generalize hs : normal (whole ++ '.' :: rest) = s at hfailed hpointed
  have hlength : (s.splitOn ':').length = ((whole ++ '.' :: rest).splitOn ':').length := by
    rw [← hs, splitOn_normal, List.length_map]
  unfold unsignedReal at hfailed
  split at hfailed
  · cases hfailed
  · split at hfailed
    · cases hfailed
    · split at hfailed
      · obtain hfailed | ⟨values, hvalues, hfailed⟩ := eq_error_of_bind hfailed
        · obtain ⟨part, hmem, hfailed⟩ := failed_mapM hfailed
          obtain ⟨x, hok⟩ := hpointed part hmem
          rw [hok] at hfailed
          cases hfailed
        · obtain ⟨hmany, rfl⟩ := failed_sixtieths (k := 0) hfailed
          rw [List.length_reverse, length_of_mapM hvalues, hlength] at hmany
          exact ⟨by omega, rfl⟩
      · rename_i hnone
        have hsingle : s.splitOn ':' = [s] := List.splitOn_eq_singleton (by simpa using hnone)
        obtain ⟨x, hok⟩ := hpointed s (hsingle ▸ List.mem_singleton_self _)
        rw [hok] at hfailed
        cases hfailed

/-- A run of digits and underscores, and what follows it. -/
theorem exists_run (s : List Char) : ∃ run, s = run ++ Tag.afterRun s ∧ ∀ c ∈ run, IsLoose c := by
  refine ⟨s.takeWhile fun c => c.isDigit || c = '_', List.takeWhile_append_dropWhile.symm, ?_⟩
  intro c hmem
  simpa [IsLoose] using List.all_eq_true.mp List.all_takeWhile c hmem

theorem failed_unsignedReal {s rest : List Char} {c : Char} {failure : Failure}
    (hbody : Tag.unsigned s = c :: rest) (hc : c = '.' ∨ c.isDigit)
    (hfailed : real s = .error (.failed failure)) :
    unsignedReal (normal (c :: rest)) = .error (.failed failure) := by
  have hlower : c.toLower = c := by
    obtain rfl | hdigit := hc
    · rfl
    · exact toLower_of_isDigit hdigit
  have hbody : Tag.unsigned (s.map Char.toLower) = c :: rest.map Char.toLower := by
    rw [unsigned_map_toLower, hbody, List.map_cons, hlower]
  obtain ⟨negative, hsigned⟩ := signed_of_unsigned hbody hc
  unfold real at hfailed
  rw [hsigned] at hfailed
  obtain hfailed | ⟨_, hfound, hfailed⟩ := eq_error_of_bind hfailed
  · cases hfailed
  · cases hfound
    obtain hfailed | ⟨_, _, hfailed⟩ := eq_error_of_bind hfailed
    · rw [normal, List.map_cons, hlower]
      exact hfailed
    · cases hfailed

theorem failed_pointed {s : List Char} {failure : Failure} (hform : Tag.isPointed (Tag.unsigned s))
    (hfailed : real s = .error (.failed failure)) : Unvalued s failure := by
  generalize hbody : Tag.unsigned s = body at hform
  have hsplit : body.takeWhile (· ≠ '.') ++ body.dropWhile (· ≠ '.') = body :=
    List.takeWhile_append_dropWhile
  unfold Tag.isPointed at hform
  generalize body.takeWhile (· ≠ '.') = whole at hform hsplit
  dsimp only at hform
  split at hform
  · rename_i rest hpoint
    rw [hpoint] at hsplit
    obtain ⟨run, hrest, hrun⟩ := exists_run rest
    have hparts : HasParts whole := by
      obtain hform | hform := Bool.or_eq_true_iff.mp hform
      · exact hasParts_of_isGroup (Bool.and_eq_true_iff.mp hform).1
      · exact hasParts_of_isSixtieths (Bool.and_eq_true_iff.mp hform).1
    have hfailed : unsignedReal (normal (whole ++ '.' :: rest)) = .error (.failed failure) := by
      obtain ⟨c, more, rfl, hc⟩ := hparts.head
      exact failed_unsignedReal (hbody.trans hsplit.symm) (.inr hc) hfailed
    obtain hform | hform := Bool.or_eq_true_iff.mp hform
    · obtain ⟨hgroup, hexponent⟩ := Bool.and_eq_true_iff.mp hform
      have hpart := isPart_of_isGroup hgroup
      obtain ⟨x, hok⟩ := unsignedReal_pointed hpart.loose hrun hexponent (.inl hpart.normal.1)
      rw [← hrest, hfailed] at hok
      cases hok
    · obtain ⟨hsixtieths, hend⟩ := Bool.and_eq_true_iff.mp hform
      rw [List.isEmpty_iff.mp hend, List.append_nil] at hrest
      obtain ⟨hmany, rfl⟩ := failed_unsignedReal_parts hparts (hrest ▸ hrun) hfailed
      exact .vast (by rwa [hbody, ← hsplit])
  · cases hform

/-- An infinity or no number by name. -/
theorem not_failed_of_name {s rest : List Char} {failure : Failure}
    (hbody : Tag.unsigned s = '.' :: rest)
    (hname : normal ('.' :: rest) = ".inf".toList ∨ normal ('.' :: rest) = ".nan".toList) :
    real s ≠ .error (.failed failure) := by
  intro hfailed
  have hfailed := failed_unsignedReal hbody (.inl rfl) hfailed
  obtain hname | hname := hname
  · rw [hname, unsignedReal, if_pos rfl] at hfailed
    cases hfailed
  · rw [hname, unsignedReal, if_neg (by decide), if_pos rfl] at hfailed
    cases hfailed

/-- A number with a point by its form is one, unless it has too many parts. -/
theorem failed_real {s : List Char} {failure : Failure} (hform : Tag.isReal s)
    (hfailed : real s = .error (.failed failure)) : Unvalued s failure := by
  have hlist {s : List Char} {name : String} (heq : String.ofList s = name) : s = name.toList := by
    rw [← heq, String.toList_ofList]
  unfold Tag.isReal at hform
  simp only [Bool.or_eq_true, List.contains_cons, List.contains_nil, beq_iff_eq, Bool.false_eq_true,
    or_false] at hform
  obtain ((hpointed | hname) | hname) | hform := hform
  · exact failed_pointed hpointed hfailed
  · obtain hname | hname | hname := hname
    all_goals exact absurd hfailed (not_failed_of_name (hlist hname) (.inl rfl))
  · obtain hname | hname | hname := hname
    all_goals
      rw [hlist hname] at hfailed
      exact absurd hfailed (not_failed_of_name rfl (.inr rfl))
  · split at hform
    · rename_i c rest
      obtain ⟨hc, hexponent⟩ := Bool.and_eq_true_iff.mp hform
      obtain ⟨run, hrest, hrun⟩ := exists_run rest
      have hfailed := failed_unsignedReal rfl (.inl rfl) hfailed
      have hrun : ∀ d ∈ c :: run, IsLoose d := by
        intro d hmem
        obtain rfl | hmem := List.mem_cons.mp hmem
        · exact .inl hc
        · exact hrun d hmem
      have hpart : IsPart (c :: run) := ⟨⟨c, run, rfl, hc⟩, hrun⟩
      obtain ⟨x, hok⟩ := unsignedReal_pointed (List.forall_mem_nil _) hrun hexponent
        (.inr hpart.normal.1)
      rw [List.nil_append, List.cons_append, ← hrest, hfailed] at hok
      cases hok
    · cases hform

end Reals

theorem isSome_lookup_boolWords : ∀ text ∈ Tag.boolWords,
    (boolWords.lookup (String.ofList (text.toList.map Char.toLower))).isSome := by
  decide +kernel

theorem eq_error_of_map {α β : Type} {f : α → β} {x : Except Problem α} {problem : Problem}
    (hfailed : f <$> x = .error problem) : x = .error problem := by
  cases x with
  | error other =>
    cases hfailed
    rfl
  | ok a => cases hfailed

theorem failed_stamp {text : String} {failure : Failure} (hform : Tag.isStamp text.toList)
    (hfailed : value .stamp text = .error (.failed failure)) : Unvalued text.toList failure := by
  simp only [value] at hfailed
  unfold Tag.isStamp at hform
  cases hread : Stamp.read? text.toList with
  | none =>
    rw [hread] at hform
    cases hform
  | some stamp =>
    simp only [hread] at hfailed
    split at hfailed
    · rename_i message hfault
      cases hfailed
      exact .stamp hread hfault
    · cases hfailed

/-- A scalar whose kind its form shows has a value of that kind, but for a few forms of numbers and
    of points in time. -/
theorem unvalued_of_ofPlain {text : String} {failure : Failure}
    (hfailed : value (Tag.ofPlain text) text = .error (.failed failure)) :
    Unvalued text.toList failure := by
  unfold Tag.ofPlain at hfailed
  dsimp only at hfailed
  split at hfailed
  · rename_i hword
    have hsome := isSome_lookup_boolWords text (List.contains_iff_mem.mp hword)
    obtain ⟨b, hlookup⟩ := Option.isSome_iff_exists.mp hsome
    simp only [value, hlookup] at hfailed
    cases hfailed
  · split at hfailed
    · rename_i hreal
      exact failed_real hreal (eq_error_of_map hfailed)
    · split at hfailed
      · rename_i hint
        exact failed_int hint (eq_error_of_map hfailed)
      · split at hfailed
        · cases hfailed
        · split at hfailed
          · cases hfailed
          · split at hfailed
            · rename_i hstamp
              exact failed_stamp hstamp hfailed
            · split at hfailed
              · cases hfailed
              · split at hfailed <;> cases hfailed

end AllowPolicy.Yaml.Scalar
