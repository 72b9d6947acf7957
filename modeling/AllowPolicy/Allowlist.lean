import AllowPolicy.Failure
import AllowPolicy.Rule.Matching

namespace AllowPolicy

/-- The rules in force: those of every application, and those of single ones in the order in which
    an identity first got a rule. -/
structure Allowlist where
  global : List Rule := []
  apps : List (Int × List Rule) := []
  deriving DecidableEq

namespace Allowlist

def addGlobal (allowlist : Allowlist) (rule : Rule) : Allowlist :=
  { allowlist with global := allowlist.global ++ [rule] }

/-- The buckets with one more rule for an identity. -/
def extend (uid : Int) (rule : Rule) : List (Int × List Rule) → List (Int × List Rule)
  | [] => [(uid, [rule])]
  | (owner, rules) :: rest =>
    if owner = uid then (owner, rules ++ [rule]) :: rest else (owner, rules) :: extend uid rule rest

/-- Adds a rule for one identity, which must not be zero. -/
def addApp (allowlist : Allowlist) (uid : Int) (rule : Rule) : Outcome Allowlist :=
  if uid = 0 then .error (.badValue "App rules need a non-global identity")
  else .ok { allowlist with apps := extend uid rule allowlist.apps }

def ownRules (allowlist : Allowlist) (uid : Int) : List Rule := (allowlist.apps.lookup uid).getD []

/-- The rules that apply to an identity: its own, then those of every application. -/
def rulesFor (allowlist : Allowlist) (uid : Int) : List Rule :=
  allowlist.ownRules uid ++ allowlist.global

/-- Some rule that applies to the identity allows the destination. -/
def isAllowed (allowlist : Allowlist) (uid : Int) (target : Destination) : Bool :=
  (allowlist.rulesFor uid).any (·.allows target)

def size (allowlist : Allowlist) : Nat :=
  allowlist.global.length + (allowlist.apps.flatMap (·.2)).length

end Allowlist

end AllowPolicy
