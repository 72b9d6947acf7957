import AllowPolicy.Settings.Schema
import AllowPolicy.Yaml.Reader

namespace AllowPolicy.Settings

/-- The settings that a document in YAML describes. An absent value is an empty document; `source`
    is the name of the document in messages. -/
def ofText [Yaml.Reads] (source text : String) : Outcome Settings :=
  match Yaml.Reads.read text with
  | .error .malformed => .error (.settings (.malformed source))
  | .error (.failed failure) => .error failure
  | .ok v =>
    (ofValue (if v.isAbsent then .table [] else v)).mapError fun refusal =>
      .settings (.refused source refusal)

end AllowPolicy.Settings
