import AllowPolicy.Validation.Checked
import AllowPolicy.Decimal.Integer
import AllowPolicy.Decimal.Real

namespace AllowPolicy.Validation

open AllowPolicy.Text

/-- The text of a text, or of a run of bytes that encodes one. -/
def textOf? : Value → Option String
  | .text s => some s
  | .bytes content => String.fromUTF8? ⟨content.toArray⟩
  | _ => none

def isBytes : Value → Bool
  | .bytes _ => true
  | _ => false

/-- Reads a text. It is not asked here whether surrogates stand alone in it; in settings and in what
    a database holds they never do. -/
def readText (v : Value) : Checked String :=
  match textOf? v with
  | some s => .fits s
  | none => .issue (if isBytes v then .stringUnicode else .stringType)

def readNonEmpty (v : Value) : Checked String :=
  (readText v).andThen fun s => if s.isEmpty then .issue .stringTooShort else .fits s

/-- Reads one fixed text. -/
def readLiteral (expected : String) : Value → Checked Unit
  | .text s => if s = expected then .fits () else .issue (.literal expected)
  | _ => .issue (.literal expected)

/-- The integer has no more digits than a text may have for one. -/
def isShort (n : Int) : Bool := (Nat.toDigits 10 n.natAbs).length ≤ Decimal.mostDigits

/-- The integer fits into sixty-four bits. -/
def isNarrow (n : Int) : Bool := -Int.pow 2 63 ≤ n && n < Int.pow 2 63

/-- Reads an integer from a number without fraction, a truth value or a text. -/
def readInt (v : Value) : Checked Int :=
  match textOf? v with
  | some s =>
    match Decimal.readWholeNumber? s with
    | some n => if isShort n then .fits n else .issue .intTooLong
    | none => .issue .intParsing
  | none =>
    match v with
    | .real x =>
      if !x.isFinite then .issue .notFinite
      else match Decimal.integral? x with
        | some n => if isNarrow n then .fits n else .issue .intParsing
        | none => .issue .intFromFloat
    | .bytes _ => .issue .intParsing
    | v =>
      match v.integer? with
      | some n => .fits n
      | none => .issue .intType

/-- Reads an integer that is at least `bound`. -/
def readIntFrom (bound : Int) (v : Value) : Checked Int :=
  (readInt v).andThen fun n => if n < bound then .issue (.greaterThanEqual bound) else .fits n

/-- The number that a text spells, with white space around it or with underscores in it. -/
def realOf? (s : String) : Option Float :=
  let body := trim isBlank s.toList
  (Decimal.readReal? body).or ((Decimal.dropUnderscores? body).bind Decimal.readReal?)

/-- Reads a number from a number, a truth value or a text. -/
def readReal (v : Value) : Checked Float :=
  match textOf? v with
  | some s =>
    match realOf? s with
    | some x => .fits x
    | none => .issue .floatParsing
  | none =>
    match v with
    | .real x => .fits x
    | .bytes _ => .issue .floatParsing
    | v =>
      match v.integer?.bind Decimal.ofInt? with
      | some x => .fits x
      | none => .issue .floatType

def readPositive (v : Value) : Checked Float :=
  (readReal v).andThen fun x => if 0 < x then .fits x else .issue (.greaterThan 0)

/-- The words for false and for true. -/
def falseWords : List String := ["0", "off", "f", "false", "n", "no"]

def trueWords : List String := ["1", "on", "t", "true", "y", "yes"]

/-- The truth value that a text spells, whatever the case of its ASCII letters. -/
def boolOf? (s : String) : Option Bool :=
  let word := String.ofList (s.toList.map Char.toLower)
  if falseWords.contains word then some false
  else if trueWords.contains word then some true
  else none

/-- Reads a truth value from a truth value, a zero or one, or a text. -/
def readBool (v : Value) : Checked Bool :=
  match textOf? v with
  | some s =>
    match boolOf? s with
    | some b => .fits b
    | none => .issue .boolParsing
  | none =>
    match v with
    | .bool b => .fits b
    | .bytes _ => .issue .boolParsing
    | v =>
      match v.integer?.filter isNarrow with
      | some 0 => .fits false
      | some 1 => .fits true
      | some _ => .issue .boolParsing
      | none => .issue .boolType

end AllowPolicy.Validation
