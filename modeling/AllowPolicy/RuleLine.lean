import AllowPolicy.Constraints
import AllowPolicy.Identity
import AllowPolicy.Text.Split

namespace AllowPolicy

/-- One word of a rule line. -/
inductive Phrase where
  | package (name : String)
  | host (pattern : String)
  | ipv4 (pattern : String)
  /-- A word of another kind, or a pattern that is empty: it says nothing. -/
  | other
  deriving DecidableEq, Repr

/-- Reads one word: its kind stands before the first colon. -/
def Phrase.read (word : List Char) : Phrase :=
  match Text.cut ':' word with
  | (_, none) => .other
  | (kind, some value) =>
    if kind = "packagename".toList then .package (.ofList value)
    else if kind = "host".toList ∧ value ≠ [] then .host (.ofList value)
    else if kind = "ipv4".toList ∧ value ≠ [] then .ipv4 (.ofList value)
    else .other

namespace RuleLine

/-- A line without the line ends behind it. -/
def trimEnd (text : List Char) : List Char :=
  Text.dropTrailing (fun c => c = '\r' ∨ c = '\n') text

/-- The words of an allow line; none for a text that is no allow line. -/
def words? (line : List Char) : Option (List (List Char)) :=
  match Text.after? "allow ".toList line with
  | some body => if '\n' ∈ line then none else some (body.splitOn ' ')
  | none => none

/-- The fault of a line that names an unknown application. -/
def packageNotFound (line name : String) : Fault :=
  .of .packageNotFound { details := [(.ruleText, line), (.packageName, name)] }

/-- Enters one phrase. Identity zero stands for every application and never for a single one, so a
    name with it counts as unknown. -/
def enter (resolver : Resolver) (set : Constraints) : Phrase → Logged (Outcome Constraints)
  | .package name => do
    match ← resolver.lookup name with
    | none => pure (.error (.fault (packageNotFound set.line name)))
    | some uid =>
      if uid = 0 then pure (.error (.fault (packageNotFound set.line name)))
      else pure ((set.put .uid (.number uid)).bind (·.put .packageName (.text name)))
  | .host pattern => pure (set.put .host (.text pattern))
  | .ipv4 pattern => pure (set.put .ipv4 (.text pattern))
  | .other => pure (.ok set)

/-- Enters phrases one after another, up to the first that fails. -/
def enterAll (resolver : Resolver) (set : Constraints) : List Phrase → Logged (Outcome Constraints)
  | [] => pure (.ok set)
  | phrase :: rest => do
    match ← enter resolver set phrase with
    | .error failure => pure (.error failure)
    | .ok set => enterAll resolver set rest

/-- The fields that a text fixes; none for a text that is no allow line. -/
def constraints (resolver : Resolver) (text : String) : Logged (Outcome (Option Constraints)) := do
  let line := trimEnd text.toList
  match words? line with
  | none => pure (.ok none)
  | some words =>
    let result ← enterAll resolver { line := .ofList line } (words.map Phrase.read)
    pure (result.map some)

/-- The rule of a text; none for a text that is no allow line. -/
def parseStrict [Surrogates] (resolver : Resolver) (text : String) :
    Logged (Outcome (Option ScopedRule)) := do
  match ← constraints resolver text with
  | .error failure => pure (.error failure)
  | .ok none =>
    log .debug ("Not a rule: " ++ text)
    pure (.ok none)
  | .ok (some set) => pure (set.toScopedRule.map some)

/-- The record for a line that is passed over because of `fault`. -/
def rejection (text : String) (fault : Fault) : Record :=
  let detail (d : Fault.Detail) := (fault.details.lookup d).getD ""
  match fault.kind with
  | .packageNotFound =>
    { level := .warning, text := "package " ++ detail .packageName ++ " not found" }
  | .conflict =>
    { level := .error, text := "Rule string " ++ text ++ " has invalid combination of types" }
  | _ =>
    { level := .info, text := "Rule string " ++ text ++ " rejected: " ++ detail .reason }

/-- The rule of a text, or none if it yields no rule: a line that is merely rejected is written down
    and passed over. -/
def parse [Surrogates] (resolver : Resolver) (text : String) :
    Logged (Outcome (Option ScopedRule)) := do
  match ← parseStrict resolver text with
  | .error (.fault fault) =>
    if fault.kind.isA .rejected then (⟨.ok none, [rejection text fault]⟩ : Logged _)
    else pure (.error (.fault fault))
  | other => pure other

end RuleLine

end AllowPolicy
