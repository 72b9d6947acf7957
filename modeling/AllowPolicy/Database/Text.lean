import AllowPolicy.Database
import AllowPolicy.Text.Split

namespace AllowPolicy.Database

/-- A field of a line, without the signs that end fields and lines. -/
def escape : List Char → List Char
  | [] => []
  | '\\' :: rest => '\\' :: '\\' :: escape rest
  | '\t' :: rest => '\\' :: 't' :: escape rest
  | '\n' :: rest => '\\' :: 'n' :: escape rest
  | '\r' :: rest => '\\' :: 'r' :: escape rest
  | c :: rest => c :: escape rest

/-- The text behind an escaped field. -/
def unescape : List Char → List Char
  | [] => []
  | '\\' :: 't' :: rest => '\t' :: unescape rest
  | '\\' :: 'n' :: rest => '\n' :: unescape rest
  | '\\' :: 'r' :: rest => '\r' :: unescape rest
  | '\\' :: c :: rest => c :: unescape rest
  | c :: rest => c :: unescape rest

def line (fields : List String) : List Char :=
  ['\t'].intercalate (fields.map fun field => escape field.toList) ++ ['\n']

def fields (line : List Char) : List String :=
  (line.splitOn '\t').map fun field => String.ofList (unescape field)

/-- The first line of a database. -/
def heading : String := "rules and overrides"

def ruleFields (row : RuleRow) : List String :=
  ["rule", toString row.id, row.text, toString row.enacted] ++ row.stamp.toList

def overrideFields (row : Option String × Int) : List String :=
  "override" :: toString row.2 :: row.1.toList

def ruleLines : Table RuleTable → List (List String)
  | .missing => []
  | .foreign => [["rules"]]
  | .present table => ["rules", toString table.last] :: table.rows.map ruleFields

def overrideLines : Table OverrideTable → List (List String)
  | .missing => []
  | .foreign => [["overrides"]]
  | .present table => ["overrides", toString table.rows.length] :: table.rows.map overrideFields

/-- The text of a database, a row on each line. -/
def toText (db : Database) : String :=
  let lines := [heading] :: ruleLines db.rules ++ overrideLines db.overrides ++
    (if db.versioned then [["versions"]] else [])
  String.ofList (lines.flatMap line)

/-- The database with what one more line says. -/
def readLine? (db : Database) : List String → Option Database
  | ["rules"] => some { db with rules := .foreign }
  | ["rules", last] => do pure { db with rules := .present { last := ← last.toNat? } }
  | "rule" :: id :: text :: enacted :: stamp => do
    let .present table := db.rules | none
    let row : RuleRow :=
      { id := ← id.toInt?, text, enacted := ← enacted.toInt?, stamp := stamp.head? }
    pure { db with rules := .present { table with rows := table.rows ++ [row] } }
  | ["overrides"] => some { db with overrides := .foreign }
  | ["overrides", _] => some { db with overrides := .present {} }
  | "override" :: allowed :: name => do
    let .present table := db.overrides | none
    let row := (name.head?, ← allowed.toInt?)
    pure { db with overrides := .present { rows := table.rows ++ [row] } }
  | ["versions"] => some { db with versioned := true }
  | _ => none

/-- The database that a text describes, if it describes one. -/
def ofText? (text : String) : Option Database := do
  let lines := (text.toList.splitOn '\n').map fields
  let first :: rest := lines | none
  if first ≠ [heading] then none
  (rest.filter (· ≠ [""])).foldlM readLine? {}

end AllowPolicy.Database
