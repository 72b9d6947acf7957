import AllowPolicy.Text.Blank
import AllowPolicy.Text.Digit
import AllowPolicy.Text.Split

namespace AllowPolicy.Decimal

open AllowPolicy.Text

/-- `digits · 10 ^ exponent` as the nearest binary64 number. Exponents far out of range are
    settled without computing the power. -/
def ofDigits (digits : Nat) (exponent : Int) : Float :=
  let lead := (Nat.toDigits 10 digits).length + exponent
  if digits = 0 ∨ lead < -400 then 0
  else if 400 < lead then Float.ofScientific 1 false 999
  else if 0 ≤ exponent then Float.ofScientific (digits * Nat.pow 10 exponent.toNat) false 0
  else Float.ofScientific digits true (-exponent).toNat

/-- The value of a possibly empty run of ASCII digits. -/
def digitRun (s : List Char) : Nat :=
  s.foldl (fun n c => 10 * n + (c.toNat - '0'.toNat)) 0

/-- The exponent part of a decimal: nothing, or the letter `e`, a sign and digits. -/
def readExponent? : List Char → Option Int
  | [] => some 0
  | c :: rest =>
    if c ≠ 'e' ∧ c ≠ 'E' then none
    else
      let (negative, digits) := match rest with
        | '-' :: r => (true, r)
        | '+' :: r => (false, r)
        | r => (false, r)
      if digits.isEmpty ∨ !digits.all Char.isDigit then none
      else
        let n := digitRun (digits.dropWhile (· = '0') |>.take 12)
        some (if negative then -(n : Int) else n)

/-- An unsigned decimal: digits with at most one point, at least one digit, and an exponent. -/
def readUnsigned? (s : List Char) : Option Float :=
  let whole := s.takeWhile Char.isDigit
  let rest := s.dropWhile Char.isDigit
  let (part, tail) := match rest with
    | '.' :: r => (r.takeWhile Char.isDigit, r.dropWhile Char.isDigit)
    | r => ([], r)
  if whole.isEmpty ∧ part.isEmpty then none
  else (readExponent? tail).map fun e => ofDigits (digitRun (whole ++ part)) (e - part.length)

/-- An unsigned number: a decimal, or an infinity or no number by name in any case. -/
def readMagnitude? (s : List Char) : Option Float :=
  let name := s.map Char.toLower
  if name = "inf".toList ∨ name = "infinity".toList then some (1 / 0)
  else if name = "nan".toList then some (0 / 0)
  else readUnsigned? s

/-- A number with an optional sign and nothing around it. -/
def readReal? : List Char → Option Float
  | '-' :: rest => (readMagnitude? rest).map (- ·)
  | '+' :: rest => readMagnitude? rest
  | s => readMagnitude? s

/-- The text without underscores, when it has some, none at either end and no two together. -/
def dropUnderscores? (s : List Char) : Option (List Char) :=
  let runs := s.splitOn '_'
  if runs.length = 1 ∨ runs.any List.isEmpty then none else some runs.flatten

end AllowPolicy.Decimal
