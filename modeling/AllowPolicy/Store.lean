import AllowPolicy.Calendar.Moment
import AllowPolicy.Database
import AllowPolicy.Overrides
import AllowPolicy.Store.Binding
import AllowPolicy.StoredRule

namespace AllowPolicy

/-- A connection to a database. What statements do is a draft until it is saved. Nobody else writes
    to the file meanwhile, but another connection may keep a draft from being saved. -/
structure Store where
  saved : Database
  draft : Database
  isOpen : Bool := true
  /-- Nothing is left of the database once the store is closed. -/
  volatile : Bool := false
  deriving DecidableEq, Repr

namespace Store

/-- A use of the store. What was done before it failed is not taken back by itself. -/
abbrev Op (α : Type) := ExceptT Failure (StateM Store) α

/-- A store on a database, in which missing tables are made. -/
def connect (db : Database) (volatile : Bool) : Store :=
  { saved := db.completed, draft := db.completed, volatile }

/-- The store after its connection is closed. What is not saved is lost. -/
def close (store : Store) : Store := { store with draft := store.saved, isOpen := false }

/-- The store closed and connected anew. -/
def reopen (store : Store) : Store :=
  connect (if store.volatile then {} else store.saved) store.volatile

/-- The failure of a use after closing; the missing connection is asked for `what`. -/
def closedFailure (what : String) : Failure :=
  .unsupported ("'NoneType' object has no attribute '" ++ what ++ "'")

/-- Runs a statement on the draft. -/
def execute {α : Type} (statement : Database.Statement α) : Op α := do
  let store ← get
  if !store.isOpen then throw (closedFailure "execute")
  match statement.run store.draft with
  | .error failure => throw failure
  | .ok (answer, draft) =>
    set { store with draft }
    pure answer

/-- Saves the draft. Another user of the file may stand in the way; the draft stays as it is then,
    and nothing of it is saved. -/
def commit (refusal : Option String := none) : Op Unit :=
  match refusal with
  | none => modify fun store => { store with saved := store.draft }
  | some message => throw (.statement message)

/-- Goes back to what is saved. -/
def rollback : Op Unit := modify fun store => { store with draft := store.saved }

/-- The fault to report for what a database says. Other failures stay as they are. -/
def reported (kind : Fault.Kind) (operation : String) : Failure → Failure
  | .statement message | .integrity message =>
    .fault (.of kind { details := [(.operation, operation), (.underlyingError, message)] })
  | failure => failure

/-- Runs a statement and saves what it did. If only the saving fails, what it did stays in the
    draft: later questions see it, and the next change saves it too. -/
def write {α : Type} (operation : String) (statement : Database.Statement α)
    (refusal : Option String := none) : Op α := do
  let work : Op α := do
    let answer ← execute statement
    commit refusal
    pure answer
  tryCatch work fun failure => throw (reported .write operation failure)

/-- Runs a statement that only asks. -/
def read {α : Type} (operation : String) (statement : Database.Statement α) : Op α :=
  tryCatch (execute statement) fun failure => throw (reported .read operation failure)

/-- Adds a row to the table of rules. -/
def insertion [Surrogates] (text : Value) (enacted : Int) : Database.Statement Int :=
  Database.onRules (Database.noColumnNamed "rules" "ruletext") fun table => do
    let text ← bindText 1 text
    table.add text (← bindInt enacted)

def addRule [Surrogates] (text : Value) (enacted : Int) (refusal : Option String := none) :
    Op Int :=
  write "add_rule" (insertion text enacted) refusal

/-- Puts a rule in or out of force, and tells whether there is such a rule. -/
def setEnacted (id enacted : Int) (refusal : Option String := none) : Op Bool :=
  let statement := Database.onRules (Database.noColumn "rule_id") fun table => do
    let enacted ← bindInt enacted
    let id ← bindInt id
    pure (table.has id, table.setEnacted id enacted)
  write "set_enacted" statement refusal

/-- Deletes a rule, and tells whether there was one. -/
def deleteRule (id : Int) (refusal : Option String := none) : Op Bool :=
  let statement := Database.onRules (Database.noColumn "rule_id") fun table => do
    let id ← bindInt id
    pure (table.has id, table.delete id)
  write "delete_rule" statement refusal

/-- Empties the table of rules. The columns of the table do not matter. -/
def clearing : Database.Statement Unit := do
  match (← get).rules with
  | .missing => throw (Table.absent "rules")
  | .foreign => pure ()
  | .present table => modify fun db => { db with rules := .present table.clear }

/-- Makes sure that rules can be added at all. -/
def insertable : Database.Statement Unit :=
  Database.onRules (Database.noColumnNamed "rules" "ruletext") fun table => pure ((), table)

/-- Stores rule lines in place of all others, or none of them, also if only the saving fails.
    Answers how many they are. -/
def replaceRules [Surrogates] (texts : List Value) (refusal : Option String := none) : Op Nat := do
  if !(← get).isOpen then throw (closedFailure "rollback")
  let work : Op Unit := do
    execute clearing
    execute insertable
    texts.forM fun text => discard (execute (insertion text 1))
    commit refusal
  tryCatch work fun failure => do
    rollback
    throw (reported .write "replace_rules" failure)
  pure texts.length

/-- The rows of the table of rules. -/
def rows : Database.Statement (List RuleRow) :=
  Database.onRules (Database.noColumn "rule_id") fun table => pure (table.rows, table)

/-- A row as a stored rule. -/
def storedRule (row : RuleRow) : Outcome StoredRule :=
  match row.stamp.bind (Calendar.Moment.fault? Text.quoted) with
  | some message => .error (.badValue message)
  | none => (StoredRule.make row.id row.text (row.enacted ≠ 0)).mapError .refused

/-- All rules, by number. -/
def listRules : Op (List StoredRule) := do
  (← read "list_rules" rows).mapM fun row => liftExcept (storedRule row)
where
  /-- A result as the end of a use. -/
  liftExcept {α : Type} : Outcome α → Op α
    | .ok a => pure a
    | .error failure => throw failure

/-- The number and text of each rule in force, by number. -/
def enactedRules : Op (List (Int × String)) := do
  let all ← read "enacted_rules" rows
  pure ((all.filter (·.enacted = 1)).map fun row => (row.id, row.text))

/-- Stores an override, over the one that an application had. -/
def setOverride [Surrogates] (name : Option String) (allowed : Int)
    (refusal : Option String := none) : Op Unit :=
  let complaint := Database.noColumnNamed "app_overrides" "packagename"
  let statement := Database.onOverrides complaint fun table => do
    let name ← bindName name
    let allowed ← bindInt allowed
    pure ((), table.set name allowed)
  write "set_override" statement refusal

/-- Removes the override of an application, and tells whether there was one. -/
def removeOverride [Surrogates] (name : Option String) (refusal : Option String := none) :
    Op Bool :=
  let statement := Database.onOverrides (Database.noColumn "packagename") fun table => do
    let name ← bindName name
    pure (name.any table.has, name.elim table table.remove)
  write "remove_override" statement refusal

def overrides : Op (Overrides (Option String) Bool) := do
  let rows ← read "overrides" <|
    Database.onOverrides (Database.noColumn "packagename") fun table => pure (table.rows, table)
  pure (.ofList (rows.map fun (name, allowed) => (name, allowed ≠ 0)))

/-- Takes a table away, as another program might. -/
def dropTable (name : String) : Op Unit := do
  execute (Database.drop name)
  commit

/-- Adds a row with a number of its own, as another program might. -/
def insertRow [Surrogates] (id : Int) (text : Value) (enacted : Int) (stamp : Option Value) :
    Op Unit := do
  let statement : Database.Statement Unit :=
    Database.onRules (Database.noColumnNamed "rules" "rule_id") fun table => do
      let id ← bindInt id
      let text ← bindText 2 text
      let enacted ← bindInt enacted
      let stamp ← stamp.mapM (bindText 4)
      let text ← RuleTable.filled "ruletext" text
      let stamp ← stamp.mapM (RuleTable.filled "created_at")
      pure ((), ← table.insert { id, text, enacted, stamp })
  execute statement
  commit

end Store

end AllowPolicy
