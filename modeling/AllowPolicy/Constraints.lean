import AllowPolicy.Journal
import AllowPolicy.Rule
import AllowPolicy.Decimal.Integer

namespace AllowPolicy

/-- What a rule line can fix, each at most once. -/
inductive Field where
  | uid
  | packageName
  | host
  | ipv4
  deriving DecidableEq, Repr

namespace Field

def name : Field → String
  | .uid => "uid"
  | .packageName => "packagename"
  | .host => "host"
  | .ipv4 => "ipv4"

def ofName? (name : String) : Option Field :=
  [uid, packageName, host, ipv4].find? (·.name == name)

/-- A field as a failed look-up shows it. -/
def literal : Field → String
  | .uid => "<ConstraintField.UID: 'uid'>"
  | .packageName => "<ConstraintField.PACKAGE_NAME: 'packagename'>"
  | .host => "<ConstraintField.HOST: 'host'>"
  | .ipv4 => "<ConstraintField.IPV4: 'ipv4'>"

end Field

/-- What a field is fixed to. -/
inductive Term where
  | number (n : Int)
  | text (s : String)
  deriving DecidableEq, Repr

namespace Term

def toText : Term → String
  | .number n => toString n
  | .text s => s

/-- The term as messages show it. -/
def literal : Term → String
  | .number n => toString n
  | .text s => Text.quoted s

/-- The integer that a term is or spells. -/
def toInteger : Term → Outcome Int
  | .number n => .ok n
  | .text s => (Decimal.spelled s).mapError .badValue

end Term

/-- The fields that one rule line fixes, in the order in which it fixes them. -/
structure Constraints where
  line : String := ""
  entries : List (Field × Term) := []
  deriving DecidableEq, Repr

namespace Constraints

/-- What a field is fixed to. -/
def get? (set : Constraints) (field : Field) : Option Term := set.entries.lookup field

def has (set : Constraints) (field : Field) : Bool := (set.get? field).isSome

def size (set : Constraints) : Nat := set.entries.length

def fields (set : Constraints) : List Field := set.entries.map (·.1)

/-- What a field is fixed to, a failure if it is not. -/
def get (set : Constraints) (field : Field) : Outcome Term :=
  match set.get? field with
  | some term => .ok term
  | none => .error (.missingKey field.literal)

/-- The fault of a line that fixes a field twice. -/
def duplicate (line : String) (field : Field) : Fault :=
  .of .duplicateField { details := [(.ruleText, line), (.fieldName, field.name)] }

/-- Fixes a field; a field that is fixed already stays as it is. -/
def put (set : Constraints) (field : Field) (term : Term) : Outcome Constraints :=
  if set.has field then .error (.fault (duplicate set.line field))
  else .ok { set with entries := set.entries ++ [(field, term)] }

/-- The set as messages show it. -/
def literal (set : Constraints) : String :=
  let fields := set.entries.map fun (field, term) => field.name ++ "=" ++ term.literal
  "ConstraintSet(" ++ ", ".intercalate fields ++ ")"

/-- The fault of a line with both kinds of pattern. -/
def conflict (line : String) : Fault := .of .conflict { details := [(.ruleText, line)] }

/-- The fault of a line with no pattern. -/
def incomplete (line : String) : Fault := .of .incomplete { details := [(.ruleText, line)] }

/-- The rule of a kind for a pattern, under a scope. -/
def scopedRule [Surrogates] (scope : Int) (kind : Rule.Kind) (pattern : Term) :
    Outcome ScopedRule :=
  ((Rule.make kind pattern.toText Rule.defaultPriority).bind
    (ScopedRule.make scope)).mapError .refused

/-- The rule that the fixed fields describe: exactly one pattern, and the identity or every
    application. -/
def toScopedRule [Surrogates] (set : Constraints) : Outcome ScopedRule := do
  let scope ← ((set.get? .uid).getD (.number 0)).toInteger
  match set.get? .host, set.get? .ipv4 with
  | some _, some _ => throw (.fault (conflict set.line))
  | some host, none => scopedRule scope .domain host
  | none, some ipv4 => scopedRule scope .ipv4 ipv4
  | none, none => throw (.fault (incomplete set.line))

end Constraints

end AllowPolicy
