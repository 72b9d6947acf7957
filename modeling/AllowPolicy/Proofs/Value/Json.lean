import AllowPolicy.Proofs.Decimal.Plain
import AllowPolicy.Value.Json

namespace AllowPolicy

/-- What a text in JSON says. Of numbers there are the integers only. A text is the sequence of its
    units of sixteen bits, as escapes can write them. -/
inductive Json where
  | null
  | bool (b : Bool)
  | int (n : Int)
  | text (units : List Nat)
  | list (items : List Json)
  | object (fields : List (List Nat × Json))

namespace Json

/-- The units of a character by its number. -/
def utf16 (n : Nat) : List Nat :=
  if n < 0x10000 then [n]
  else [0xd800 + (n - 0x10000) / 0x400, 0xdc00 + (n - 0x10000) % 0x400]

/-- The units of a text. A character that stands for a surrogate is that one unit. -/
def units [Surrogates] (s : String) : List Nat :=
  s.toList.flatMap fun c => utf16 ((Surrogates.number? c).getD c.toNat)

def string [Surrogates] (s : String) : Json := .text (units s)

/-- An object whose keys are given as texts. -/
def record [Surrogates] (fields : List (String × Json)) : Json :=
  .object (fields.map fun (key, value) => (units key, value))

section Reader

def isSpace (c : Char) : Bool := c = ' ' || c = '\n' || c = '\r' || c = '\t'

def skip (s : List Char) : List Char := s.dropWhile isSpace

def hexDigit? (c : Char) : Option Nat := "0123456789abcdef".toList.idxOf? c.toLower

/-- What a letter behind a backslash stands for. -/
def escaped? (c : Char) : Option Nat :=
  [('"', 0x22), ('\\', 0x5c), ('/', 0x2f), ('b', 0x08), ('f', 0x0c), ('n', 0x0a), ('r', 0x0d),
    ('t', 0x09)].lookup c

/-- The units up to the closing quote, and what comes after it. -/
def readUnits : List Char → Option (List Nat × List Char)
  | [] => none
  | c :: rest =>
    if c = '"' then some ([], rest)
    else if c = '\\' then
      match rest with
      | 'u' :: a :: b :: c :: d :: rest => do
        let unit ← [a, b, c, d].foldlM (fun n digit => (hexDigit? digit).map (16 * n + ·)) 0
        (readUnits rest).map fun (units, rest) => (unit :: units, rest)
      | letter :: rest => do
        let unit ← escaped? letter
        (readUnits rest).map fun (units, rest) => (unit :: units, rest)
      | [] => none
    else if c < ' ' then none
    else (readUnits rest).map fun (units, rest) => (utf16 c.toNat ++ units, rest)

/-- An integer in front of a text. -/
def readInt (s : List Char) : Option (Json × List Char) :=
  let digits := if s.head? = some '-' then s.tail else s
  let run := digits.takeWhile Char.isDigit
  if run = [] then none
  else
    let n : Int := Nat.ofDigitChars 10 run 0
    some (.int (if s.head? = some '-' then -n else n), digits.dropWhile Char.isDigit)

/-- The key in front of a text, and what comes after its colon. -/
def readKey (s : List Char) : Option (List Nat × List Char) :=
  match skip s with
  | '"' :: rest => do
    let (units, rest) ← readUnits rest
    match skip rest with
    | ':' :: rest => some (units, rest)
    | _ => none
  | _ => none

def readWord : List Char → Option (Json × List Char)
  | 'n' :: 'u' :: 'l' :: 'l' :: rest => some (.null, rest)
  | 't' :: 'r' :: 'u' :: 'e' :: rest => some (.bool true, rest)
  | 'f' :: 'a' :: 'l' :: 's' :: 'e' :: rest => some (.bool false, rest)
  | _ => none

mutual

/-- The value in front of a text, and what comes after it. The depth of a value is bounded by its
    length. -/
def readValue : Nat → List Char → Option (Json × List Char)
  | 0, _ => none
  | fuel + 1, s =>
    match skip s with
    | [] => none
    | c :: rest =>
      if c = '"' then (readUnits rest).map fun (units, rest) => (.text units, rest)
      else if c = '[' then
        if (skip rest).head? = some ']' then some (.list [], (skip rest).tail)
        else (readItems fuel rest).map fun (items, rest) => (.list items, rest)
      else if c = '\x7b' then
        if (skip rest).head? = some '\x7d' then some (.object [], (skip rest).tail)
        else (readFields fuel rest).map fun (fields, rest) => (.object fields, rest)
      else if c = '-' ∨ c.isDigit then readInt (c :: rest)
      else readWord (c :: rest)

/-- The items up to the closing bracket. -/
def readItems : Nat → List Char → Option (List Json × List Char)
  | 0, _ => none
  | fuel + 1, s => do
    let (item, rest) ← readValue fuel s
    match skip rest with
    | ',' :: rest => (readItems fuel rest).map fun (items, rest) => (item :: items, rest)
    | ']' :: rest => some ([item], rest)
    | _ => none

/-- The fields up to the closing brace. -/
def readFields : Nat → List Char → Option (List (List Nat × Json) × List Char)
  | 0, _ => none
  | fuel + 1, s => do
    let (key, rest) ← readKey s
    let (value, rest) ← readValue fuel rest
    match skip rest with
    | ',' :: rest => (readFields fuel rest).map fun (fields, rest) => ((key, value) :: fields, rest)
    | '\x7d' :: rest => some ([(key, value)], rest)
    | _ => none

end

/-- What a whole text says, if it is JSON. -/
def read (s : String) : Option Json :=
  match readValue (s.toList.length + 1) s.toList with
  | some (value, rest) => if skip rest = [] then some value else none
  | none => none

end Reader

theorem hexDigit?_digitChar : ∀ d < 16, hexDigit? (Nat.digitChar d) = some d := by decide

theorem hexPadded_succ {width n : Nat} (hwidth : 0 < width) :
    Text.hexPadded (width + 1) n = Text.hexPadded width (n / 16) ++ [Nat.digitChar (n % 16)] := by
  unfold Text.hexPadded
  by_cases hn : n < 16
  · rw [Nat.toDigits_of_lt_base hn, Nat.div_eq_of_lt hn, Nat.mod_eq_of_lt hn]
    obtain ⟨more, rfl⟩ := Nat.exists_eq_add_of_lt hwidth
    simp [List.replicate_succ']
  · rw [Nat.toDigits_of_base_le (by omega) (Nat.le_of_not_lt hn)]
    simp

/-- Four digits write a unit. -/
theorem hexPadded_four {n : Nat} (hn : n < 0x10000) :
    Text.hexPadded 4 n = [Nat.digitChar (n / 16 / 16 / 16), Nat.digitChar (n / 16 / 16 % 16),
      Nat.digitChar (n / 16 % 16), Nat.digitChar (n % 16)] := by
  have hone : Text.hexPadded 1 (n / 16 / 16 / 16) = [Nat.digitChar (n / 16 / 16 / 16)] := by
    unfold Text.hexPadded
    rw [Nat.toDigits_of_lt_base (by omega)]
    rfl
  rw [hexPadded_succ (by omega), hexPadded_succ (by omega), hexPadded_succ (by omega), hone]
  rfl

theorem readUnits_quote (rest : List Char) : readUnits ('"' :: rest) = some ([], rest) := by
  unfold readUnits
  rfl

theorem readUnits_plain {c : Char} (hquote : c ≠ '"') (hescape : c ≠ '\\') (hshown : ¬ c < ' ')
    (rest : List Char) :
    readUnits (c :: rest) =
      (readUnits rest).map fun (units, rest) => (utf16 c.toNat ++ units, rest) := by
  rw [readUnits.eq_def (c :: rest)]
  simp only
  rw [if_neg hquote, if_neg hescape, if_neg hshown]

theorem readUnits_jsonUnit {n : Nat} (hn : n < 0x10000) (rest : List Char) :
    readUnits (Value.jsonUnit n ++ rest) =
      (readUnits rest).map fun (units, rest) => (n :: units, rest) := by
  have hdigits : 16 * (16 * (16 * (n / 16 / 16 / 16) + n / 16 / 16 % 16) + n / 16 % 16) + n % 16 =
      n := by
    omega
  have hthird := hexDigit?_digitChar (n / 16 / 16 / 16) (by omega)
  have hsecond := hexDigit?_digitChar (n / 16 / 16 % 16) (by omega)
  have hfirst := hexDigit?_digitChar (n / 16 % 16) (by omega)
  have hlast := hexDigit?_digitChar (n % 16) (by omega)
  rw [Value.jsonUnit, hexPadded_four hn]
  simp [readUnits, hthird, hsecond, hfirst, hlast, hdigits]

section Units

variable [Surrogates]

/-- A character is read as its units. -/
theorem readUnits_jsonChar (c : Char) (rest : List Char) :
    readUnits (Value.jsonChar c ++ rest) = (readUnits rest).map fun (units, rest) =>
      (utf16 ((Surrogates.number? c).getD c.toNat) ++ units, rest) := by
  unfold Value.jsonChar
  cases hnumber : Surrogates.number? c with
  | some n =>
    obtain ⟨_, hn⟩ := Surrogates.surrogate c n hnumber
    have hsmall : n < 0x10000 := by omega
    simp [readUnits_jsonUnit hsmall, utf16, hsmall]
  | none =>
    simp only [Option.getD_none]
    split
    · rename_i hquote
      obtain rfl | rfl := hquote <;> rfl
    rename_i hquote
    split
    · subst c
      rfl
    split
    · subst c
      rfl
    split
    · subst c
      rfl
    split
    · subst c
      rfl
    split
    · subst c
      rfl
    split
    · rename_i hshown
      exact readUnits_plain (fun h => hquote (.inl h)) (fun h => hquote (.inr h))
        (Char.not_lt.mpr hshown.1) rest
    split
    · rename_i hsmall
      simp [readUnits_jsonUnit hsmall, utf16, hsmall]
    · rename_i hlarge
      have hbound : c.toNat < 0x110000 := by
        obtain hlow | ⟨_, hhigh⟩ := c.valid
        · exact Nat.lt_trans hlow (by decide)
        · exact hhigh
      rw [List.append_assoc, readUnits_jsonUnit (by omega), readUnits_jsonUnit (by omega),
        Option.map_map, utf16, if_neg hlarge]
      rfl

theorem readUnits_jsonText (s : String) (rest : List Char) :
    readUnits (s.toList.flatMap Value.jsonChar ++ '"' :: rest) = some (units s, rest) := by
  unfold units
  induction s.toList with
  | nil => exact readUnits_quote rest
  | cons c more ih =>
    rw [List.flatMap_cons, List.append_assoc, readUnits_jsonChar, ih, List.flatMap_cons]
    rfl

theorem readKey_jsonText (s : String) (rest : List Char) :
    readKey ((Value.jsonText s).toList ++ ':' :: rest) = some (units s, rest) := by
  have hunits := readUnits_jsonText s (':' :: rest)
  simp [Value.jsonText, readKey, skip, isSpace, hunits]

theorem readValue_jsonText (fuel : Nat) (s : String) (rest : List Char) :
    readValue (fuel + 1) ((Value.jsonText s).toList ++ rest) = some (.string s, rest) := by
  have hunits := readUnits_jsonText s rest
  simp [Value.jsonText, readValue, skip, isSpace, hunits, string]

end Units

section Values

theorem skip_append {blank : List Char} (hblank : ∀ c ∈ blank, isSpace c = true) (s : List Char) :
    skip (blank ++ s) = skip s :=
  List.dropWhile_append_of_pos hblank

theorem skip_cons {c : Char} (hc : isSpace c = false) (rest : List Char) :
    skip (c :: rest) = c :: rest := by
  simp [skip, hc]

theorem isSpace_of_isDigit {c : Char} (hdigit : c.isDigit = true) : isSpace c = false := by
  have hne {other : Char} (hother : other.isDigit = false) : c ≠ other :=
    Text.ne_of_isDigit hdigit hother
  simp [isSpace, hne]

/-- Blanks in front of a value do not matter. -/
theorem readValue_append {blank : List Char} (hblank : ∀ c ∈ blank, isSpace c = true) (fuel : Nat)
    (s : List Char) : readValue fuel (blank ++ s) = readValue fuel s := by
  cases fuel with
  | zero => simp [readValue]
  | succ fuel => simp [readValue, skip_append hblank]

/-- A number begins with its sign or a digit. -/
theorem exists_toString (n : Int) :
    ∃ c more, (toString n).toList = c :: more ∧ (c = '-' ∨ c.isDigit = true) := by
  rw [Decimal.toList_toString]
  split
  · exact ⟨_, _, rfl, .inl rfl⟩
  · obtain ⟨c, more, hdigits⟩ := List.exists_cons_of_ne_nil (@Nat.toDigits_ne_nil n.natAbs 10)
    have hdigit := Nat.isDigit_of_mem_toDigits (by decide) (by decide)
      (hdigits ▸ List.mem_cons_self : c ∈ Nat.toDigits 10 n.natAbs)
    exact ⟨c, more, hdigits, .inr hdigit⟩

theorem readInt_toString (n : Int) {rest : List Char}
    (hrest : ∀ c ∈ rest.head?, c.isDigit = false) :
    readInt ((toString n).toList ++ rest) = some (.int n, rest) := by
  have hdigits : ∀ c ∈ Nat.toDigits 10 n.natAbs, c.isDigit :=
    fun _ hc => Nat.isDigit_of_mem_toDigits (by decide) (by decide) hc
  obtain ⟨htake, hdrop⟩ := Decimal.span_digits hdigits rest hrest
  rw [Decimal.toList_toString]
  split
  · have hvalue : -(n.natAbs : Int) = n := by omega
    rw [List.cons_append, readInt]
    simp only [List.head?_cons, if_true, List.tail_cons, htake, hdrop, Nat.toDigits_ne_nil,
      if_false, Nat.ofDigitChars_ten_toDigits, hvalue]
  · rename_i hpositive
    have hhead : (Nat.toDigits 10 n.natAbs ++ rest).head? ≠ some '-' := by
      obtain ⟨c, more, hshown⟩ := List.exists_cons_of_ne_nil (@Nat.toDigits_ne_nil n.natAbs 10)
      have hdigit := hdigits c (hshown ▸ List.mem_cons_self)
      rw [hshown, List.cons_append, List.head?_cons]
      exact fun hsign => Text.ne_of_isDigit hdigit rfl (Option.some.inj hsign)
    rw [readInt]
    simp only [hhead, if_false, htake, hdrop, Nat.toDigits_ne_nil, Nat.ofDigitChars_ten_toDigits,
      Int.natAbs_of_nonneg (Int.not_lt.mp hpositive)]

theorem readValue_toString (fuel : Nat) (n : Int) {rest : List Char}
    (hrest : ∀ c ∈ rest.head?, c.isDigit = false) :
    readValue (fuel + 1) ((toString n).toList ++ rest) = some (.int n, rest) := by
  rw [← readInt_toString n hrest]
  obtain ⟨c, more, hshown, hc⟩ := exists_toString n
  have hspace : isSpace c = false := by
    obtain rfl | hdigit := hc
    · rfl
    · exact isSpace_of_isDigit hdigit
  have hne {other : Char} (hsign : other ≠ '-') (hother : other.isDigit = false) : c ≠ other := by
    obtain rfl | hdigit := hc
    · exact hsign.symm
    · exact Text.ne_of_isDigit hdigit hother
  rw [hshown, List.cons_append, readValue, skip_cons hspace]
  simp only
  rw [if_neg (hne (by decide) (by decide)), if_neg (hne (by decide) (by decide)),
    if_neg (hne (by decide) (by decide)), if_pos hc]

theorem readItems_append {blank : List Char} (hblank : ∀ c ∈ blank, isSpace c = true) (fuel : Nat)
    (s : List Char) : readItems fuel (blank ++ s) = readItems fuel s := by
  cases fuel with
  | zero => simp [readItems]
  | succ fuel => simp [readItems, readValue_append hblank]

theorem readFields_append {blank : List Char} (hblank : ∀ c ∈ blank, isSpace c = true) (fuel : Nat)
    (s : List Char) : readFields fuel (blank ++ s) = readFields fuel s := by
  cases fuel with
  | zero => simp [readFields]
  | succ fuel => simp [readFields, readKey, skip_append hblank]

/-- A closing bracket is no item. -/
theorem readItems_of_closed {fuel : Nat} {s : List Char} (hclosed : (skip s).head? = some ']') :
    readItems fuel s = none := by
  obtain ⟨rest, hskip⟩ := List.head?_eq_some_iff.mp hclosed
  obtain _ | _ | fuel := fuel
  · simp [readItems]
  · simp [readItems, readValue]
  · simp [readItems, readValue, hskip, readWord]

theorem readFields_of_closed {fuel : Nat} {s : List Char} (hclosed : (skip s).head? = some '\x7d') :
    readFields fuel s = none := by
  obtain ⟨rest, hskip⟩ := List.head?_eq_some_iff.mp hclosed
  cases fuel with
  | zero => simp [readFields]
  | succ fuel => simp [readFields, readKey, hskip]

variable {fuel : Nat} {s left more rest : List Char} {json : Json} {jsons : List Json}
  {key : List Nat} {fields : List (List Nat × Json)}

theorem readItems_last (hvalue : readValue fuel s = some (json, left))
    (hclosed : skip left = ']' :: rest) : readItems (fuel + 1) s = some ([json], rest) := by
  simp [readItems, hvalue, hclosed]

theorem readItems_more (hvalue : readValue fuel s = some (json, left))
    (hcomma : skip left = ',' :: more) (hmore : readItems fuel more = some (jsons, rest)) :
    readItems (fuel + 1) s = some (json :: jsons, rest) := by
  simp [readItems, hvalue, hcomma, hmore]

theorem readFields_last {value : List Char} (hkey : readKey s = some (key, value))
    (hvalue : readValue fuel value = some (json, left)) (hclosed : skip left = '\x7d' :: rest) :
    readFields (fuel + 1) s = some ([(key, json)], rest) := by
  simp [readFields, hkey, hvalue, hclosed]

theorem readFields_more {value : List Char} (hkey : readKey s = some (key, value))
    (hvalue : readValue fuel value = some (json, left)) (hcomma : skip left = ',' :: more)
    (hmore : readFields fuel more = some (fields, rest)) :
    readFields (fuel + 1) s = some ((key, json) :: fields, rest) := by
  simp [readFields, hkey, hvalue, hcomma, hmore]

theorem readValue_list {fuel : Nat} {s rest : List Char} {items : List Json}
    (hitems : readItems fuel s = some (items, rest)) :
    readValue (fuel + 1) ('[' :: s) = some (.list items, rest) := by
  have hopen : ¬ (skip s).head? = some ']' := fun hclosed => by
    rw [readItems_of_closed hclosed] at hitems
    cases hitems
  simp [readValue, skip_cons, isSpace, hopen, hitems]

theorem readValue_object {fuel : Nat} {s rest : List Char} {fields : List (List Nat × Json)}
    (hfields : readFields fuel s = some (fields, rest)) :
    readValue (fuel + 1) ('\x7b' :: s) = some (.object fields, rest) := by
  have hopen : ¬ (skip s).head? = some '\x7d' := fun hclosed => by
    rw [readFields_of_closed hclosed] at hfields
    cases hfields
  simp [readValue, skip_cons, isSpace, hopen, hfields]

end Values

end Json

end AllowPolicy
