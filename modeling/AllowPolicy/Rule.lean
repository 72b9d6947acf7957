import AllowPolicy.Text.Surrogate
import AllowPolicy.Validation.Issue

namespace AllowPolicy

/-- What a rule's pattern describes. -/
inductive Rule.Kind where
  | domain
  | ipv4
  deriving DecidableEq, Repr

namespace Rule.Kind

def name : Kind → String
  | .domain => "domain"
  | .ipv4 => "ipv4"

/-- The schema that the data of a rule of this kind has to fit. -/
def schema : Kind → String
  | .domain => "DomainRule"
  | .ipv4 => "IPRule"

def ofName? (name : String) : Option Kind :=
  if name = "domain" then some .domain else if name = "ipv4" then some .ipv4 else none

end Rule.Kind

/-- An allow rule. The pattern is kept as it was written; matching it never fails. -/
structure Rule where
  kind : Rule.Kind
  pattern : String
  priority : Int := 1
  pattern_ne : pattern ≠ ""
  deriving DecidableEq

namespace Rule

/-- The data of a rule that has this wrong with its pattern. -/
def badPattern (kind : Kind) (issue : Issue.Kind) : Refusal :=
  ⟨kind.schema, [⟨[.name "pattern"], issue⟩]⟩

/-- The rule of a kind and a pattern, refused if the pattern is empty or cannot be encoded. -/
def make [Surrogates] (kind : Kind) (pattern : String) (priority : Int) : Except Refusal Rule :=
  if Text.isWhole pattern then
    if h : pattern = "" then .error (badPattern kind .stringTooShort)
    else .ok ⟨kind, pattern, priority, h⟩
  else .error (badPattern kind .stringUnicode)

/-- The priority of every rule read from a rule line. -/
def defaultPriority : Int := 1

end Rule

/-- A rule together with the identity it applies to; scope zero is every application. -/
structure ScopedRule where
  scope : Nat
  rule : Rule
  deriving DecidableEq

namespace ScopedRule

def isGlobal (r : ScopedRule) : Bool := r.scope == 0

/-- The rule under a scope, refused if the scope is negative. -/
def make (scope : Int) (rule : Rule) : Except Refusal ScopedRule :=
  if scope < 0 then .error ⟨"ScopedRule", [⟨[.name "scope"], .greaterThanEqual 0⟩]⟩
  else .ok ⟨scope.toNat, rule⟩

end ScopedRule

end AllowPolicy
