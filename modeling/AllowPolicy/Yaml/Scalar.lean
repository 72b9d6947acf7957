import AllowPolicy.Decimal.Binary64
import AllowPolicy.Decimal.Integer
import AllowPolicy.Decimal.Real
import AllowPolicy.Yaml.Cursor
import AllowPolicy.Yaml.Tag

namespace AllowPolicy.Yaml.Scalar

open AllowPolicy.Text

/-- A scalar that should be a value of its kind and is none. -/
def failed {α : Type} (failure : Failure) : Except Problem α := .error (.failed failure)

/-- Without underscores, the sign apart: whether the number is negative, and the rest. -/
def signed (s : List Char) : Except Problem (Bool × List Char) :=
  match s.filter (· ≠ '_') with
  | [] => failed (.badIndex "string index out of range")
  | c :: rest => .ok (c = '-', if c = '-' ∨ c = '+' then rest else c :: rest)

/-- The value of a digit in bases up to sixteen. -/
def digitOf? (base : Nat) (c : Char) : Option Nat :=
  let letter := c.toLower
  let value? := if 'a' ≤ letter ∧ letter ≤ 'f' then some (letter.toNat - 87) else digitValue? c
  value?.filter (· < base)

/-- The digits without the mark of the base, a zero and a letter, before them. -/
def unmarked (mark : Char) : List Char → List Char
  | '0' :: c :: rest => if c.toLower = mark then rest else '0' :: c :: rest
  | s => s

/-- An integer in one base, perhaps with the mark of the base after its sign. -/
def inBase (base : Nat) (mark : Char) (s : List Char) : Except Problem Int :=
  let read (digits : List Char) := Decimal.readInBase? base (digitOf? base) (unmarked mark digits)
  let n? : Option Int := match trim isBlank s with
    | '-' :: digits => (read digits).map fun n => -(n : Int)
    | '+' :: digits => (read digits).map fun n => (n : Int)
    | digits => (read digits).map fun n => (n : Int)
  match n? with
  | some n => .ok n
  | none =>
    failed (.badValue ("invalid literal for int() with base " ++ toString base ++ ": " ++
      Text.quoted (.ofList s)))

def decimal (digits : List Char) : Except Problem Int :=
  (Decimal.spelled (.ofList digits)).mapError fun message => .failed (.badValue message)

def unsignedInt : List Char → Except Problem Int
  | ['0'] => .ok 0
  | '0' :: 'b' :: digits => inBase 2 'b' digits
  | '0' :: 'x' :: digits => inBase 16 'x' digits
  | '0' :: digits => inBase 8 'o' ('0' :: digits)
  | [] => failed (.badIndex "string index out of range")
  | s =>
    if s.contains ':' then do
      let parts ← (s.splitOn ':').mapM decimal
      pure (parts.foldl (fun n part => 60 * n + part) 0)
    else decimal s

def int (s : List Char) : Except Problem Int := do
  let (negative, body) ← signed s
  let n ← unsignedInt body
  pure (if negative then -n else n)

def pointed (s : List Char) : Except Problem Float :=
  match Decimal.readReal? (trim isBlank s) with
  | some x => .ok x
  | none =>
    failed (.badValue ("could not convert string to float: " ++ Text.quoted (.ofList s)))

/-- The sum of the parts of a number to base sixty, the last one first. -/
def sixtieths : List Float → (base : Nat) → Float → Except Problem Float
  | [], _, sum => .ok sum
  | part :: rest, base, sum =>
    match Decimal.ofInt? base with
    | some x => sixtieths rest (base * 60) (sum + part * x)
    | none => failed (.overflow "int too large to convert to float")

def unsignedReal (s : List Char) : Except Problem Float :=
  if s = ".inf".toList then .ok (1 / 0)
  else if s = ".nan".toList then .ok (0 / 0)
  else if s.contains ':' then do
    let parts ← (s.splitOn ':').mapM pointed
    sixtieths parts.reverse 1 0
  else pointed s

def real (s : List Char) : Except Problem Float := do
  let (negative, body) ← signed (s.map Char.toLower)
  let x ← unsignedReal body
  pure (if negative then -x else x)

/-- The value of a character among the sixty-four of a binary text. -/
def sextet? (c : Char) : Option Nat :=
  if 'A' ≤ c ∧ c ≤ 'Z' then some (c.toNat - 'A'.toNat)
  else if 'a' ≤ c ∧ c ≤ 'z' then some (c.toNat - 'a'.toNat + 26)
  else if c.isDigit then some (c.toNat - '0'.toNat + 52)
  else if c = '+' then some 62
  else if c = '/' then some 63
  else none

/-- The bytes of a binary text, of which `count` characters with the value `held` wait to make up
    three bytes; `pads` equal signs stand directly before. Other characters count for nothing. -/
def bytes (count held pads : Nat) : List Char → Except Problem (List UInt8)
  | [] => if count = 0 then .ok [] else .error .malformed
  | c :: rest =>
    if c = '=' then
      if 2 ≤ count ∧ 4 ≤ count + pads + 1 then
        .ok (if count = 2 then [(held / 16).toUInt8]
          else [(held / 1024).toUInt8, (held / 4).toUInt8])
      else bytes count held (pads + 1) rest
    else
      match sextet? c with
      | none => bytes count held pads rest
      | some n =>
        let held := held * 64 + n
        if count = 3 then do
          let more ← bytes 0 0 0 rest
          .ok ((held / 65536).toUInt8 :: (held / 256).toUInt8 :: held.toUInt8 :: more)
        else bytes (count + 1) held 0 rest

def boolWords : List (String × Bool) :=
  [("yes", true), ("no", false), ("true", true), ("false", false), ("on", true), ("off", false)]

def value (tag : Tag) (text : String) : Except Problem Value :=
  let s := text.toList
  match tag with
  | .null => .ok .null
  | .bool =>
    let word := String.ofList (s.map Char.toLower)
    match boolWords.lookup word with
    | some b => .ok (.bool b)
    | none => failed (.missingKey (Text.quoted word))
  | .int => .int <$> int s
  | .real => .real <$> real s
  | .text => .ok (.text text)
  | .stamp =>
    match Stamp.read? s with
    | none => failed (.unsupported "'NoneType' object has no attribute 'groupdict'")
    | some stamp =>
      match stamp.fault? with
      | some message => failed (.badValue message)
      | none => .ok (.stamp stamp.shown)
  | .binary => if s.all (·.toNat < 128) then .bytes <$> bytes 0 0 0 s else .error .malformed
  | _ => .error .malformed

end AllowPolicy.Yaml.Scalar
