import AllowPolicy.Validation.Issue
import AllowPolicy.Value.Literal

namespace AllowPolicy

/-- What became of reading data: something that fits, or every reason why it does not. -/
inductive Checked (α : Type) where
  | fits (a : α)
  | refused (issues : List Issue)

namespace Checked

variable {α β γ : Type}

/-- Two readings together: all issues of both, the first one's first. -/
def both (f : α → β → γ) : Checked α → Checked β → Checked γ
  | .fits a, .fits b => .fits (f a b)
  | .fits _, .refused later => .refused later
  | .refused early, .fits _ => .refused early
  | .refused early, .refused later => .refused (early ++ later)

instance : Applicative Checked where
  pure := .fits
  map f x := both (fun _ a => f a) (.fits ()) x
  seq f x := both (fun g a => g a) f (x ())

/-- One reason at the place itself. -/
def issue (kind : Issue.Kind) : Checked α := .refused [⟨[], kind⟩]

/-- A reading of a part, seen from outside. -/
def under (step : Issue.Step) : Checked α → Checked α
  | .fits a => .fits a
  | .refused issues => .refused (issues.map (·.under step))

/-- A further reading of what fits. -/
def andThen (x : Checked α) (f : α → Checked β) : Checked β :=
  match x with
  | .fits a => f a
  | .refused issues => .refused issues

/-- All readings of a list together. -/
def all : List (Checked α) → Checked (List α)
  | [] => .fits []
  | x :: rest => both List.cons x (all rest)

/-- The reading as data for a schema. -/
def toExcept (schema : String) : Checked α → Except Refusal α
  | .fits a => .ok a
  | .refused issues => .error ⟨schema, issues⟩

end Checked

/-- The step to what stands under a key: a text by itself, a small number as a number, and any
    other key as it is shown. -/
def Issue.Step.ofKey : Value → Issue.Step
  | .text s => .name s
  | .bool b => .number (if b then 1 else 0)
  | .int n => if -Int.pow 2 63 ≤ n ∧ n < Int.pow 2 63 then .number n else .name (toString n)
  | key => .name key.literal

/-- The entries of a table whose data a schema describes. -/
abbrev Fields := List (Value × Value)

namespace Fields

variable {α : Type}

/-- The entries of a table that is to fit a schema. -/
def ofValue (schema : String) : Value → Checked Fields
  | .table entries => .fits entries
  | _ => .issue (.modelType schema)

/-- A field that has to be there. -/
def required (fields : Fields) (name : String) (read : Value → Checked α) : Checked α :=
  match Value.get? fields (.text name) with
  | some value => (read value).under (.name name)
  | none => (Checked.issue .missing).under (.name name)

/-- A field with a default. -/
def optional (fields : Fields) (name : String) (default : α) (read : Value → Checked α) :
    Checked α :=
  match Value.get? fields (.text name) with
  | some value => (read value).under (.name name)
  | none => .fits default

/-- No field but the named ones. -/
def only (fields : Fields) (names : List String) : Checked Unit :=
  let issue : Value × Value → Option Issue
    | (.text key, _) => if names.contains key then none else some ⟨[.name key], .extraForbidden⟩
    | (key, _) => some ⟨[.ofKey key], .invalidKey⟩
  match fields.filterMap issue with
  | [] => .fits ()
  | issues => .refused issues

end Fields

end AllowPolicy
