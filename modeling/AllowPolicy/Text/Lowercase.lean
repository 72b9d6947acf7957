import AllowPolicy.Text.Lowercase.Table

namespace AllowPolicy.Text

/-- The lower-case form of one character, apart from its surroundings. Only the dotted capital I
    has a form of two characters. -/
def lowerChar (c : Char) : List Char :=
  if c.toNat = 0x130 then ['i', Char.ofNat 0x307]
  else
    match lowercaseRuns.find? fun (first, last, step, _) =>
        first ≤ c.toNat && c.toNat ≤ last && (c.toNat - first) % step = 0 with
    | some (_, _, _, shift) => [Char.ofNat (c.toNat + shift).toNat]
    | none => [c]

/-- The first character of `s` that is not passed over has case. -/
def meetsCased (s : List Char) : Bool :=
  match s.dropWhile (inRanges caseIgnorableRanges) with
  | [] => false
  | c :: _ => inRanges casedRanges c

/-- A capital sigma ends a word when a cased character stands before it and none after it. -/
def sigmaForm (before after : List Char) : Char :=
  if meetsCased before && !meetsCased after then 'ς' else 'σ'

/-- Lower-casing, with the characters already passed given in reverse. -/
def lowerFrom (before : List Char) : List Char → List Char
  | [] => []
  | c :: after =>
    (if c = 'Σ' then [sigmaForm before after] else lowerChar c) ++ lowerFrom (c :: before) after

/-- The lower-case form of a text: every character by itself, but a capital sigma by its place in
    the word. -/
def lower (s : List Char) : List Char := lowerFrom [] s

@[simp] theorem lower_nil : lower [] = [] := rfl

end AllowPolicy.Text
