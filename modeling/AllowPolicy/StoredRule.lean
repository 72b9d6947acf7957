import AllowPolicy.Validation.Scalar

namespace AllowPolicy

/-- A rule line as the store keeps it. -/
structure StoredRule where
  id : Int
  text : String
  enacted : Bool := true
  deriving DecidableEq, Repr

namespace StoredRule

open Validation

def schema : String := "StoredRule"

/-- The least number of a stored rule. -/
def firstId : Int := 1

/-- The stored rule with these parts; its number starts at one. -/
def make (id : Int) (text : String) (enacted : Bool) : Except Refusal StoredRule :=
  if id < firstId then .error ⟨schema, [⟨[.name "rule_id"], .greaterThanEqual firstId⟩]⟩
  else .ok { id, text, enacted }

/-- Reads the data of a stored rule. The moment of its making is not kept. -/
def read (v : Value) : Checked StoredRule :=
  (Fields.ofValue schema v).andThen fun fields =>
    (fun id text enacted _ => { id, text, enacted })
      <$> fields.required "rule_id" (readIntFrom firstId)
      <*> fields.required "ruletext" readText
      <*> fields.optional "enacted" true readBool
      <*> fields.only ["rule_id", "ruletext", "enacted", "created_at"]

def toValue (rule : StoredRule) : Value :=
  .record [
    ("rule_id", .int rule.id), ("ruletext", .text rule.text), ("enacted", .bool rule.enacted)]

end StoredRule

end AllowPolicy
