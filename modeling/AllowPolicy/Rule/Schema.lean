import AllowPolicy.Rule
import AllowPolicy.Validation.Scalar

namespace AllowPolicy

open Validation

namespace Rule

def toValue (rule : Rule) : Value :=
  .record [("kind", .text rule.kind.name), ("pattern", .text rule.pattern),
    ("priority", .int rule.priority)]

/-- Reads a pattern, which is a text that is not empty and can be encoded. -/
def readPattern [Surrogates] (v : Value) : Checked { s : String // s ≠ "" } :=
  (readText v).andThen fun s =>
    if Text.isWhole s then if h : s = "" then .issue .stringTooShort else .fits ⟨s, h⟩
    else .issue .stringUnicode

def read [Surrogates] (kind : Kind) (v : Value) : Checked Rule :=
  (Fields.ofValue kind.schema v).andThen fun fields =>
    (fun _ pattern priority _ => ⟨kind, pattern.1, priority, pattern.2⟩)
      <$> fields.optional "kind" () (readLiteral kind.name)
      <*> fields.required "pattern" readPattern
      <*> fields.optional "priority" defaultPriority readInt
      <*> fields.only ["kind", "pattern", "priority"]

/-- Reads the data of a rule whose kind stands in it. -/
def readTagged [Surrogates] : Value → Checked Rule
  | .table fields =>
    match Value.get? fields (.text "kind") with
    | none => .issue .tagMissing
    | some (.text name) =>
      match Kind.ofName? name with
      | some kind => (read kind (.table fields)).under (.name name)
      | none => .issue (.tagUnknown name)
    | some tag => .issue (.tagUnknown tag.literal)
  | _ => .issue .attributesType

end Rule

namespace ScopedRule

def toValue (r : ScopedRule) : Value :=
  .record [("scope", .int r.scope), ("rule", r.rule.toValue)]

def read [Surrogates] (v : Value) : Checked ScopedRule :=
  (Fields.ofValue "ScopedRule" v).andThen fun fields =>
    (fun scope rule _ => ⟨scope.toNat, rule⟩)
      <$> fields.optional "scope" 0 (readIntFrom 0)
      <*> fields.required "rule" Rule.readTagged
      <*> fields.only ["scope", "rule"]

end ScopedRule

end AllowPolicy
