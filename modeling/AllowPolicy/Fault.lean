import AllowPolicy.Value.Literal

namespace AllowPolicy

/-- What went wrong, from the general fault down to its special cases. -/
inductive Fault.Kind where
  | general
  /-- A rule line was discarded. -/
  | rejected
  | packageNotFound
  | conflict
  | incomplete
  /-- A rule line broke a structural rule and must not be passed over. -/
  | invariant
  | duplicateField
  | configuration
  | storage
  | connection
  | write
  | read
  deriving DecidableEq, Repr

/-- The particulars a fault may carry besides message, code and suggestion. -/
inductive Fault.Detail where
  | ruleText
  | reason
  | packageName
  | fieldName
  | path
  | operation
  | dbPath
  | underlyingError
  deriving DecidableEq, Repr

namespace Fault

def Detail.name : Detail → String
  | .ruleText => "rule_text"
  | .reason => "reason"
  | .packageName => "package_name"
  | .fieldName => "field_name"
  | .path => "path"
  | .operation => "operation"
  | .dbPath => "db_path"
  | .underlyingError => "underlying_error"

namespace Kind

/-- The kind itself and the kinds it is a special case of, nearest first. -/
def lineage : Kind → List Kind
  | .general => [.general]
  | .rejected => [.rejected, .general]
  | .packageNotFound => [.packageNotFound, .rejected, .general]
  | .conflict => [.conflict, .rejected, .general]
  | .incomplete => [.incomplete, .rejected, .general]
  | .invariant => [.invariant, .general]
  | .duplicateField => [.duplicateField, .invariant, .general]
  | .configuration => [.configuration, .general]
  | .storage => [.storage, .general]
  | .connection => [.connection, .storage, .general]
  | .write => [.write, .storage, .general]
  | .read => [.read, .storage, .general]

/-- `kind` is `other` or a special case of it. -/
def isA (kind other : Kind) : Bool := kind.lineage.contains other

def name : Kind → String
  | .general => "NetRulesError"
  | .rejected => "RuleRejectedError"
  | .packageNotFound => "PackageNotFoundError"
  | .conflict => "RuleConflictError"
  | .incomplete => "RuleIncompleteError"
  | .invariant => "RuleInvariantError"
  | .duplicateField => "DuplicateFieldError"
  | .configuration => "ConfigError"
  | .storage => "StorageError"
  | .connection => "StorageConnectionError"
  | .write => "StorageWriteError"
  | .read => "StorageReadError"

/-- The particulars a kind brings on its own, besides those of its parent. -/
def ownDetails : Kind → List Detail
  | .rejected => [.ruleText, .reason]
  | .packageNotFound => [.packageName]
  | .invariant => [.ruleText]
  | .duplicateField => [.fieldName]
  | .configuration => [.path]
  | .storage => [.operation]
  | .connection => [.dbPath]
  | .write | .read => [.underlyingError]
  | .general | .conflict | .incomplete => []

/-- All particulars of a kind, those of the most general kind first. -/
def details (kind : Kind) : List Detail := kind.lineage.reverse.flatMap ownDetails

/-- The code a kind sets when none is given. -/
def ownCode? : Kind → Option Int
  | .rejected => some 1001
  | .packageNotFound => some 1002
  | .conflict => some 1003
  | .incomplete => some 1004
  | .invariant => some 1101
  | .duplicateField => some 1102
  | .configuration => some 3001
  | .connection => some 5001
  | .write => some 5002
  | .read => some 5003
  | .general | .storage => none

/-- The code of a fault for which none was given: that of the kind itself, or else the nearest above
    it that has one. -/
def defaultCode (kind : Kind) : Int := (kind.lineage.findSome? ownCode?).getD 0

/-- The advice a kind gives when none is given. -/
def defaultSuggestion? : Kind → Option String
  | .packageNotFound => some "Install the package or add it to identities in the config"
  | .duplicateField => some "Fix the component that generates rule text"
  | .connection => some "Check that the database path is valid and writable"
  | _ => none

/-- The reason of a discarded line for which none was given. -/
def defaultReason (kind : Kind) (detail : Detail → String) : String :=
  match kind with
  | .packageNotFound => "package " ++ detail .packageName ++ " not found"
  | .conflict => "host and ipv4 are mutually exclusive"
  | .incomplete => "no host or ipv4 constraint"
  | _ => ""

/-- The message of a fault for which none was given, from its final particulars. -/
def defaultMessage (kind : Kind) (detail : Detail → String) : String :=
  match kind with
  | .rejected | .packageNotFound | .conflict | .incomplete =>
    "Rule rejected: " ++ detail .reason ++ " (" ++ Text.quoted (detail .ruleText) ++ ")"
  | .duplicateField => "Already contains key " ++ detail .fieldName
  | .configuration =>
    "Invalid configuration: " ++ (if (detail .path).isEmpty then "<string>" else detail .path)
  | .connection => "Failed to connect to database: " ++ detail .dbPath
  | .write => "Database write failed: " ++ detail .underlyingError
  | .read => "Database read failed: " ++ detail .underlyingError
  | .general | .invariant | .storage => ""

end Kind

end Fault

/-- A fault as it is reported: its kind, what is said about it, and the particulars of the kind. -/
structure Fault where
  kind : Fault.Kind
  message : String
  code : Int
  suggestion : Option String
  context : List (String × Value)
  details : List (Fault.Detail × String)

/-- What the reporter of a fault gives; what is left empty is filled in by the kind. -/
structure Fault.Draft where
  message : String := ""
  code : Int := 0
  suggestion : Option String := none
  context : List (String × Value) := []
  details : List (Fault.Detail × String) := []

namespace Fault

/-- The context with `value` under `key`: in the old place if the key is there, else at the end. -/
def putContext (context : List (String × Value)) (key : String) (value : Value) :
    List (String × Value) :=
  if context.any (·.1 = key) then
    context.map fun (k, v) => if k = key then (k, value) else (k, v)
  else context ++ [(key, value)]

/-- The value a draft gives for a particular, empty if it gives none. -/
def Draft.detail (draft : Draft) (detail : Detail) : String :=
  (draft.details.lookup detail).getD ""

/-- The final particulars: as given, but an empty reason of a discarded line is filled in. -/
def Draft.finalDetail (draft : Draft) (kind : Kind) (detail : Detail) : String :=
  if detail = .reason ∧ draft.detail .reason = "" then kind.defaultReason draft.detail
  else draft.detail detail

/-- The fault of a kind: each gap of the draft filled by the kind, and the particulars entered into
    the context, over entries of the same name. -/
def of (kind : Kind) (draft : Draft) : Fault where
  kind
  message :=
    if draft.message = "" then kind.defaultMessage (draft.finalDetail kind) else draft.message
  code := if draft.code = 0 then kind.defaultCode else draft.code
  suggestion :=
    match draft.suggestion, kind.defaultSuggestion? with
    | some given, some own => some (if given = "" then own else given)
    | none, own => own
    | given, none => given
  context := kind.details.foldl
    (fun context detail => putContext context detail.name (.text (draft.finalDetail kind detail)))
    draft.context
  details := kind.details.map fun detail => (detail, draft.finalDetail kind detail)

/-- The fault as a user sees it: code and message, and the advice on a line of its own. -/
def shown (fault : Fault) : String :=
  let code := fault.code
  "[E" ++ toString code ++ "] " ++ fault.message ++
    match fault.suggestion with
    | some advice => if advice = "" then "" else "\nSuggestion: " ++ advice
    | none => ""

def contextValue (fault : Fault) : Value := .record fault.context

def suggestionValue (fault : Fault) : Value :=
  match fault.suggestion with
  | some advice => .text advice
  | none => .null

def toValue (fault : Fault) : Value :=
  .record [("error_type", .text fault.kind.name), ("message", .text fault.message),
    ("code", .int fault.code), ("suggestion", fault.suggestionValue),
    ("context", fault.contextValue)]

/-- The fault as a developer sees it: the name of its kind with all it carries. The general fault
    shows no suggestion. -/
def literal (fault : Fault) : String :=
  let head := [("message", Value.text fault.message), ("code", .int fault.code)]
  let advice := if fault.kind = .general then [] else [("suggestion", fault.suggestionValue)]
  let own := fault.details.map fun (detail, value) => (detail.name, Value.text value)
  let fields := head ++ advice ++ [("context", fault.contextValue)] ++ own
  fault.kind.name ++ "(" ++
    ", ".intercalate (fields.map fun (name, value) => name ++ "=" ++ value.literal) ++ ")"

/-- Two faults are equal: same kind, and the same in all they carry. -/
def same (a b : Fault) : Bool :=
  a.kind == b.kind && a.message == b.message && a.code == b.code &&
    a.suggestion == b.suggestion && a.contextValue.same b.contextValue && a.details == b.details

end Fault

end AllowPolicy
