import AllowPolicy.Decimal.Significant
import AllowPolicy.Failure
import AllowPolicy.Text.Surrogate

namespace AllowPolicy.Store

/-- An integer as a database keeps it, in sixty-four bits. -/
def bindInt (n : Int) : Outcome Int :=
  if -Int.pow 2 63 ≤ n ∧ n < Int.pow 2 63 then .ok n
  else .error (.overflow "Python int too large to convert to SQLite INTEGER")

/-- A text as a database keeps it, which it does in its encoded form. -/
def bindString [Surrogates] (s : String) : Outcome String :=
  if Text.isWhole s then .ok s else .error (.unencodable (Text.unencodable s))

theorem bindString_of_isWhole [Surrogates] {s : String} (hwhole : Text.isWhole s = true) :
    bindString s = .ok s :=
  if_pos hwhole

theorem bindString_of_not_isWhole [Surrogates] {s : String} (hlone : Text.isWhole s = false) :
    bindString s = .error (.unencodable (Text.unencodable s)) := by
  rw [bindString, hlone]
  rfl

/-- The name of an application as a database keeps it, or none. -/
def bindName [Surrogates] : Option String → Outcome (Option String)
  | none => .ok none
  | some name => some <$> bindString name

/-- A value as a column of texts keeps it: nothing stays nothing, and numbers become their texts.
    `position` is the place of the value in its statement. -/
def bindText [Surrogates] (position : Nat) : Value → Outcome (Option String)
  | .null => .ok none
  | .text s => some <$> bindString s
  | .bool b => .ok (some (if b then "1" else "0"))
  | .int n => (fun n => some (toString n)) <$> bindInt n
  | .real x => .ok (Decimal.significant? x)
  | v => .error (.statement ("Error binding parameter " ++ toString position ++ ": type '" ++
      v.kindName ++ "' is not supported"))

end AllowPolicy.Store
