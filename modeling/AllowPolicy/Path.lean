import AllowPolicy.Text.Split

namespace AllowPolicy

/-- The path of a file: where it starts, and the names on the way. -/
structure Path where
  /-- Empty for the working directory, otherwise the slashes that stand for the root. -/
  root : String := ""
  names : List String := []
  deriving DecidableEq, Repr

namespace Path

/-- The slashes that a path starts with: two are kept, any other number is as good as one. -/
def rootOf : List Char → String
  | '/' :: '/' :: '/' :: _ => "/"
  | '/' :: '/' :: _ => "//"
  | '/' :: _ => "/"
  | _ => ""

/-- The path that a text stands for. Empty names and names for the same place are left out. -/
def ofText (text : String) : Path where
  root := rootOf text.toList
  names := ((text.toList.splitOn '/').map String.ofList).filter fun name =>
    name ≠ "" ∧ name ≠ "."

def shown (path : Path) : String :=
  if path.root = "" ∧ path.names = [] then "." else path.root ++ "/".intercalate path.names

end Path

end AllowPolicy
