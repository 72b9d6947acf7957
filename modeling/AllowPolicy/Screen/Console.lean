import AllowPolicy.Screen.Layout
import AllowPolicy.Text.Surrogate

namespace AllowPolicy

/-- What shows marked texts and tables of them, or fails to. -/
class Console where
  print : String → Outcome String
  table : List Screen.Column → List (List String) → Outcome String

namespace Screen

/-- What a screen shows has to be encoded for it. -/
def encoded [Surrogates] (shown : String) : Outcome String :=
  if Text.isWhole shown then .ok shown
  else .error (.unencodable (Text.unencodable shown ++
    "\n*** You may need to add PYTHONIOENCODING=utf-8 to your environment ***"))

/-- The screen as it is read here. Of the language of marks it knows styles made of the usual words
    and colours, and takes every other mark for a name of its own; a mark whose parameters or colour
    numbers are themselves wrong is shown like any other. -/
instance [Surrogates] : Console where
  print marked := print marked >>= encoded
  table columns rows := table columns rows >>= encoded

/-- Where no character stands for a surrogate, the screen shows all that it can read. -/
theorem print_usual (marked : String) : Console.print marked = print marked := by
  have hencoded (shown : String) : encoded shown = .ok shown := if_pos (Text.isWhole_usual shown)
  change print marked >>= encoded = print marked
  cases print marked with
  | error failure => rfl
  | ok shown => exact hencoded shown

end Screen

end AllowPolicy
