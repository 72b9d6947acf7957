import AllowPolicy.Fault
import AllowPolicy.Validation.Issue

namespace AllowPolicy

/-- Why settings could not be used. -/
inductive SettingsProblem where
  /-- The text is no settings document at all. -/
  | malformed (source : String)
  /-- The document does not fit the schema. -/
  | refused (source : String) (refusal : Refusal)
  /-- The file is there but cannot be read. -/
  | unreadable (path reason : String)

namespace SettingsProblem

/-- The name of a source in messages; settings given as text have none of their own. -/
def sourceName (source : String) : String := if source.isEmpty then "<string>" else source

/-- "1 validation error for S", "2 validation errors for S". -/
def countLine (refusal : Refusal) : String :=
  let count := refusal.issues.length
  toString count ++ " validation error" ++ (if count = 1 then "" else "s") ++
    " for " ++ refusal.schema

/-- The fault to report. Of a refusal's text the message has the first line only. -/
def fault : SettingsProblem → Fault
  | .malformed source => .of .configuration {
      message := "Invalid configuration " ++ sourceName source ++ ": not a settings document"
      suggestion := some "Check the settings file against the documented keys"
      details := [(.path, source)] }
  | .refused source refusal => .of .configuration {
      message := "Invalid configuration " ++ sourceName source ++ ": " ++ countLine refusal
      suggestion := some "Check the settings file against the documented keys"
      details := [(.path, source)] }
  | .unreadable path reason => .of .configuration {
      message := "Cannot read config " ++ path ++ ": " ++ reason
      code := 3002
      details := [(.path, path)] }

end SettingsProblem

/-- What stops an operation. -/
inductive Failure where
  /-- A fault of the engine's own kinds. -/
  | fault (f : Fault)
  /-- Data that a schema refuses. -/
  | refused (r : Refusal)
  /-- Settings that cannot be used. -/
  | settings (problem : SettingsProblem)
  /-- A call that is not allowed in the present state. -/
  | misuse (message : String)
  /-- A value outside its domain. -/
  | badValue (message : String)
  /-- A value of a kind that the operation does not take. -/
  | badType (message : String)
  /-- A look-up of what is not there, shown as it was looked up. -/
  | missingKey (shown : String)
  /-- A place beyond the end of a text or list. -/
  | badIndex (message : String)
  /-- An operation on something that does not offer it. -/
  | unsupported (message : String)
  /-- A number too large for its place. -/
  | overflow (message : String)
  /-- The database refuses a statement because of its text or tables. -/
  | statement (message : String)
  /-- The database refuses a row because of a constraint. -/
  | integrity (message : String)
  /-- Text for the screen with a closing mark that closes nothing. -/
  | badMarkup (message : String)
  /-- A text in which surrogates stand alone, where it has to be encoded. -/
  | unencodable (message : String)
  /-- A file that holds no text. -/
  | notText
  /-- The system refuses to look for a file. -/
  | system (message : String)
  /-- The calling thread would wait for a permit that nobody is left to give back. -/
  | stuck

/-- A successful result, or what stopped the operation. -/
abbrev Outcome (α : Type) := Except Failure α

end AllowPolicy
