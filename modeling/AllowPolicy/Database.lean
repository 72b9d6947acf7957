import AllowPolicy.Failure

namespace AllowPolicy

/-- A row of the table of rules. -/
structure RuleRow where
  id : Int
  text : String
  /-- One for a rule in force. Another program may have put other numbers there. -/
  enacted : Int
  /-- The moment that another program gave the row; rows made here have a sound one. -/
  stamp : Option String := none
  deriving DecidableEq, Repr

/-- The table of rules, by number. -/
structure RuleTable where
  rows : List RuleRow := []
  /-- The largest number that a row ever had; zero at first. -/
  last : Nat := 0
  deriving DecidableEq, Repr

namespace RuleTable

/-- The largest number of a row. -/
def greatest : Int := Int.pow 2 63 - 1

/-- The number of the next row: numbers are not used again, and they end. -/
def nextId (table : RuleTable) : Outcome Int :=
  if (table.last : Int) < greatest then .ok (table.last + 1)
  else .error (.statement "database or disk is full")

/-- A column that must not be empty. -/
def filled {α : Type} (column : String) : Option α → Outcome α
  | some a => .ok a
  | none => .error (.integrity ("NOT NULL constraint failed: rules." ++ column))

/-- The table with a row at its end, and the number of that row. -/
def add (table : RuleTable) (text : Option String) (enacted : Int) : Outcome (Int × RuleTable) := do
  let id ← table.nextId
  let text ← filled "ruletext" text
  pure (id, { rows := table.rows ++ [{ id, text, enacted }], last := id.toNat })

def has (table : RuleTable) (id : Int) : Bool := table.rows.any (·.id = id)

def setEnacted (table : RuleTable) (id enacted : Int) : RuleTable :=
  { table with
    rows := table.rows.map fun row => if row.id = id then { row with enacted } else row }

def delete (table : RuleTable) (id : Int) : RuleTable :=
  { table with rows := table.rows.filter (·.id ≠ id) }

/-- The table without rows. The numbers stay used. -/
def clear (table : RuleTable) : RuleTable := { table with rows := [] }

/-- Rows in the order of their numbers, with one more. -/
def insertSorted (row : RuleRow) : List RuleRow → List RuleRow
  | [] => [row]
  | head :: rest =>
    if row.id < head.id then row :: head :: rest else head :: insertSorted row rest

/-- The table with a row that comes with its number. -/
def insert (table : RuleTable) (row : RuleRow) : Outcome RuleTable :=
  if table.has row.id then .error (.integrity "UNIQUE constraint failed: rules.rule_id")
  else .ok { rows := insertSorted row table.rows, last := max table.last row.id.toNat }

end RuleTable

/-- The table of overrides: whether an application is allowed, zero for no. The rows without a name
    may be many, the others have one each. -/
structure OverrideTable where
  rows : List (Option String × Int) := []
  deriving DecidableEq, Repr

namespace OverrideTable

def has (table : OverrideTable) (name : String) : Bool := table.rows.any (·.1 = some name)

def set (table : OverrideTable) (name : Option String) (allowed : Int) : OverrideTable :=
  if name.any table.has then
    ⟨table.rows.map fun row => if row.1 = name then (name, allowed) else row⟩
  else ⟨table.rows ++ [(name, allowed)]⟩

def remove (table : OverrideTable) (name : String) : OverrideTable :=
  ⟨table.rows.filter (·.1 ≠ some name)⟩

end OverrideTable

/-- A place for a table in a database. -/
inductive Table (α : Type) where
  | missing
  /-- A table of this name that somebody made with other columns. -/
  | foreign
  | present (content : α)
  deriving DecidableEq, Repr

structure Database where
  rules : Table RuleTable := .missing
  overrides : Table OverrideTable := .missing
  /-- There is a table of versions. -/
  versioned : Bool := false
  deriving DecidableEq, Repr

namespace Table

variable {α : Type}

/-- The table itself, or a new one where it is missing. -/
def orNew (table : Table α) (new : α) : Table α :=
  match table with
  | .missing => .present new
  | table => table

def absent (name : String) : Failure := .statement ("no such table: " ++ name)

/-- The content of a table, or the complaint about a foreign one. -/
def content (table : Table α) (name complaint : String) : Outcome α :=
  match table with
  | .present content => .ok content
  | .foreign => .error (.statement complaint)
  | .missing => .error (absent name)

end Table

namespace Database

/-- The database with all its tables. -/
def completed (db : Database) : Database where
  rules := db.rules.orNew {}
  overrides := db.overrides.orNew {}
  versioned := true

/-- A database that somebody made for another purpose, with tables of the same names. -/
def foreign : Database where
  rules := .foreign
  overrides := .foreign

/-- A statement: what it answers and makes of a database, or why it is refused. A refused statement
    changes nothing. -/
abbrev Statement (α : Type) := StateT Database (Except Failure) α

/-- The complaint about a table without this column. -/
def noColumn (column : String) : String := "no such column: " ++ column

/-- The complaint about a row for a table without this column. -/
def noColumnNamed (table column : String) : String :=
  "table " ++ table ++ " has no column named " ++ column

/-- Works on the table of rules. -/
def onRules {α : Type} (complaint : String) (work : RuleTable → Outcome (α × RuleTable)) :
    Statement α := do
  let (answer, table) ← work (← (← get).rules.content "rules" complaint)
  modify fun db => { db with rules := .present table }
  pure answer

/-- Works on the table of overrides. -/
def onOverrides {α : Type} (complaint : String)
    (work : OverrideTable → Outcome (α × OverrideTable)) : Statement α := do
  let (answer, table) ← work (← (← get).overrides.content "app_overrides" complaint)
  modify fun db => { db with overrides := .present table }
  pure answer

/-- Takes a whole table away, with all that is known of it. -/
def drop (name : String) : Statement Unit := do
  let db ← get
  match name with
  | "rules" =>
    if db.rules = .missing then throw (Table.absent name)
    set { db with rules := .missing }
  | "app_overrides" =>
    if db.overrides = .missing then throw (Table.absent name)
    set { db with overrides := .missing }
  | "schema_version" =>
    if !db.versioned then throw (Table.absent name)
    set { db with versioned := false }
  | _ => throw (Table.absent name)

end Database

end AllowPolicy
