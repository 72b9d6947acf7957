import AllowPolicy.Yaml.Stamp

namespace AllowPolicy.Yaml

/-- What kind of value a node stands for. -/
inductive Tag where
  | null
  | bool
  | int
  | real
  | text
  | stamp
  | binary
  /-- The key whose value is merged into the mapping around it. -/
  | merge
  /-- The key of the value that stands for a whole mapping. -/
  | standIn
  | sequence
  | mapping
  | set
  | orderedMap
  | pairs
  | unknown
  deriving DecidableEq, Repr

namespace Tag

/-- What the short tags of the language stand for. -/
def standardNames : List (String × Tag) := [
    ("null", .null), ("bool", .bool), ("int", .int), ("float", .real), ("str", .text),
    ("timestamp", .stamp), ("binary", .binary), ("merge", .merge), ("value", .standIn),
    ("seq", .sequence), ("map", .mapping), ("set", .set), ("omap", .orderedMap),
    ("pairs", .pairs)]

/-- The prefix of the tags of the language. -/
def standard : String := "tag:yaml.org,2002:"

def ofName (name : String) : Tag :=
  ((standardNames.find? fun (short, _) => standard ++ short == name).map (·.2)).getD .unknown

/-- One or more digits or underscores, not starting with one. -/
def isGroup (s : List Char) : Bool :=
  match s with
  | [] => false
  | c :: rest => c.isDigit && rest.all fun c => c.isDigit || c = '_'

/-- A part of a number to base sixty: below sixty, in one or two digits. -/
def isSixtieth : List Char → Bool
  | [c] => c.isDigit
  | [c, d] => c.isDigit && c ≤ '5' && d.isDigit
  | _ => false

/-- A number to base sixty: a group of digits and further parts behind colons. -/
def isSixtieths (s : List Char) : Bool :=
  match s.splitOn ':' with
  | first :: second :: rest => isGroup first && (second :: rest).all isSixtieth
  | _ => false

/-- The text without a sign in front. -/
def unsigned : List Char → List Char
  | c :: rest => if c = '+' ∨ c = '-' then rest else c :: rest
  | [] => []

/-- Nonempty, and made of underscores and characters that satisfy `p`. -/
def isRun (p : Char → Bool) (s : List Char) : Bool := !s.isEmpty && s.all fun c => p c || c = '_'

/-- An integer without sign: binary, octal, decimal, hexadecimal or to base sixty. -/
def isUnsignedInt : List Char → Bool
  | ['0'] => true
  | '0' :: 'b' :: rest => isRun (fun c => c = '0' || c = '1') rest
  | '0' :: 'x' :: rest => isRun (fun c => c.isDigit || ('a' ≤ c.toLower && c.toLower ≤ 'f')) rest
  | '0' :: rest => isRun (fun c => '0' ≤ c && c ≤ '7') rest
  | s => isGroup s || isSixtieths s

/-- Nothing, or an exponent with its sign. -/
def isExponent : List Char → Bool
  | [] => true
  | e :: sign :: digits =>
    (e = 'e' || e = 'E') && (sign = '+' || sign = '-') && !digits.isEmpty &&
      digits.all Char.isDigit
  | _ => false

/-- What follows a run of digits and underscores. -/
def afterRun (s : List Char) : List Char := s.dropWhile fun c => c.isDigit || c = '_'

/-- Digits, a point and perhaps more digits, without sign. -/
def isPointed (s : List Char) : Bool :=
  let whole := s.takeWhile (· ≠ '.')
  match s.dropWhile (· ≠ '.') with
  | '.' :: rest =>
    (isGroup whole && isExponent (afterRun rest)) || (isSixtieths whole && (afterRun rest).isEmpty)
  | _ => false

/-- A number with a point. -/
def isReal (s : List Char) : Bool :=
  let body := unsigned s
  isPointed body || [".inf", ".Inf", ".INF"].contains (String.ofList body) ||
    [".nan", ".NaN", ".NAN"].contains (String.ofList s) ||
    match s with
    | '.' :: c :: rest => c.isDigit && isExponent (afterRun rest)
    | _ => false

/-- A date in full, or any date with a time. -/
def isStamp (s : List Char) : Bool :=
  match Stamp.read? s with
  | some date => date.clock.isSome || date.padded
  | none => false

def boolWords : List String :=
  ["yes", "Yes", "YES", "no", "No", "NO", "true", "True", "TRUE", "false", "False", "FALSE", "on",
    "On", "ON", "off", "Off", "OFF"]

def nullWords : List String := ["~", "null", "Null", "NULL", ""]

/-- The tag of a plain scalar, which shows what it is by its form. -/
def ofPlain (text : String) : Tag :=
  let s := text.toList
  if boolWords.contains text then .bool
  else if isReal s then .real
  else if isUnsignedInt (unsigned s) then .int
  else if text = "<<" then .merge
  else if nullWords.contains text then .null
  else if isStamp s then .stamp
  else if text = "=" then .standIn
  else if text = "!" ∨ text = "&" ∨ text = "*" then .unknown
  else .text

end Tag

end AllowPolicy.Yaml
