import AllowPolicy.Text.Blank
import AllowPolicy.Text.Digit
import AllowPolicy.Text.Quoted
import AllowPolicy.Text.Split

namespace AllowPolicy.Decimal

open AllowPolicy.Text

/-- Digits that continue a number whose value so far is `value`; one underscore may stand before
    each of them. -/
def readMoreDigits (base : Nat) (digit? : Char → Option Nat) (value : Nat) :
    List Char → Option Nat
  | [] => some value
  | '_' :: c :: rest => (digit? c).bind fun d => readMoreDigits base digit? (base * value + d) rest
  | c :: rest => (digit? c).bind fun d => readMoreDigits base digit? (base * value + d) rest

/-- A number written in digits of a base, with single underscores allowed between two digits. -/
def readInBase? (base : Nat) (digit? : Char → Option Nat) : List Char → Option Nat
  | [] => none
  | c :: rest => (digit? c).bind fun d => readMoreDigits base digit? d rest

/-- A number written in decimal digits, with single underscores allowed between two digits. -/
def readDigits? : (digit? : Char → Option Nat) → List Char → Option Nat := readInBase? 10

/-- A number with an optional sign directly before it. -/
def readSigned? (digit? : Char → Option Nat) : List Char → Option Int
  | '-' :: rest => (readDigits? digit? rest).map fun n => -(n : Int)
  | '+' :: rest => (readDigits? digit? rest).map fun n => (n : Int)
  | s => (readDigits? digit? s).map fun n => (n : Int)

/-- An integer in digits of any script, with white space around it. -/
def readInteger? (s : String) : Option Int :=
  readSigned? digitValue? (trim isBlank s.toList)

/-- The most digits that a text may have for an integer. -/
def mostDigits : Nat := 4300

/-- The number of digits in front, behind white space and a sign; underscores do not end them. -/
def digitCount (s : List Char) : Nat :=
  let run (digits : List Char) := ((digits.takeWhile fun c =>
    c = '_' || (digitValue? c).isSome).filter (· ≠ '_')).length
  match trim isBlank s with
  | '-' :: digits | '+' :: digits => run digits
  | digits => run digits

/-- Why a text of so many digits is no integer. -/
def tooManyDigits (count : Nat) : String :=
  "Exceeds the limit (4300 digits) for integer string conversion: value has " ++ toString count ++
    " digits; use sys.set_int_max_str_digits() to increase the limit"

/-- The integer that a text spells, or why it spells none. -/
def spelled (s : String) : Except String Int :=
  let count := digitCount s.toList
  if mostDigits < count then .error (tooManyDigits count)
  else
    match readInteger? s with
    | some n => .ok n
    | none => .error ("invalid literal for int() with base 10: " ++ quoted s)

/-- An integer in ASCII digits, with white space around it and possibly a point and zeros behind
    it. -/
def readWholeNumber? (s : String) : Option Int :=
  let body := trim isBlank s.toList
  match cut '.' body with
  | (_, none) => readSigned? asciiDigit? body
  | (whole, some part) => if part.all (· = '0') then readSigned? asciiDigit? whole else none

end AllowPolicy.Decimal
