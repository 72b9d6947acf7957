import AllowPolicy.Command
import AllowPolicy.Engine
import AllowPolicy.Screen.Console
import AllowPolicy.Value.Json
import AllowPolicy.Workspace

namespace AllowPolicy.Command

inductive Output where
  | text (s : String)
  /-- Stored rules, for a program to read. -/
  | listing (rules : List StoredRule)
  /-- Time goes by. -/
  | pause (seconds : Float)

/-- What a command works on: the system around it, what it has put out so far, and what it has
    opened. -/
structure Session (σ : Type) where
  workspace : Workspace
  accounts : List (String × Int) := []
  output : List Output := []
  opened : σ

/-- Why a command ends before its last step. -/
inductive Stop where
  | exit (code : Nat)
  /-- A failure that the command does not report. -/
  | crash (failure : Failure)

/-- A part of a command. What was put out or stored before a stop remains. -/
abbrev Run (σ : Type) (α : Type) := ExceptT Stop (StateM (Session σ)) α

namespace Run

variable {σ α : Type}

def put (output : Output) : Run σ Unit :=
  modify fun session => { session with output := session.output ++ [output] }

def exit (code : Nat) : Run σ α := throw (.exit code)

/-- Puts a marked text on the screen. -/
def say [Console] (marked : String) : Run σ Unit :=
  match Console.print marked with
  | .ok text => put (.text text)
  | .error failure => throw (.crash failure)

/-- Puts a table of marked texts on the screen. -/
def sayTable [Console] (columns : List Screen.Column) (rows : List (List String)) : Run σ Unit :=
  match Console.table columns rows with
  | .ok text => put (.text text)
  | .error failure => throw (.crash failure)

/-- Puts out data for a program to read. -/
def tell [Surrogates] (v : Value) : Run σ Unit := put (.text (v.jsonIndented ++ "\n"))

def red (s : String) : String := "[red]" ++ s ++ "[/red]"

def green (s : String) : String := "[green]" ++ s ++ "[/green]"

/-- A text that stands back. -/
def dim (s : String) : String := "[dim]" ++ s ++ "[/dim]"

/-- Says in red why a command cannot go on, and ends it. -/
def refuse [Console] (reason : String) : Run σ α := do
  say (red reason)
  exit 1

/-- The fault behind a failure, if it is one to be reported. -/
def fault? : Failure → Option Fault
  | .fault fault => some fault
  | .settings problem => some problem.fault
  | _ => none

/-- The result, if there is one. Else the command ends: a fault is handed to `report` first. -/
def expect (report : Fault → Run σ Unit) : Outcome α → Run σ α
  | .ok a => pure a
  | .error failure =>
    match fault? failure with
    | some fault => do
      report fault
      exit 1
    | none => throw (.crash failure)

/-- The result, if there is one. Else the command ends and says why, behind `front`. -/
def expectOr [Console] (front : String) (result : Outcome α) : Run σ α :=
  expect (fun fault => say (red (front ++ fault.shown))) result

/-- The settings in a file, with another database if one is given. -/
def settings [Console] [Yaml.Reads] (files : Files) : Run σ Settings := do
  let found ← match files.config with
    | none => pure {}
    | some path => expectOr "" ((← get).workspace.settings path)
  match files.database with
  | none => pure found
  | some path => pure { found with database := (Path.ofText path).shown }

/-- The resolver that settings choose. -/
def resolver (settings : Settings) : Run σ Resolver := do
  pure (settings.resolver (← get).accounts)

/-- Opens an engine with settings, lets `body` use it and closes it. What was stored remains,
    however `body` ends. -/
def withEngine [Console] (settings : Settings) (body : Run (Engine Unit) α) : Run Unit α := do
  let path := Path.ofText settings.database
  let session ← get
  let resolver ← resolver settings
  let engine ← expectOr "" do
    let store ← session.workspace.openStore path
    Engine.make settings resolver store
  let (result, after) := body.run.run { session with opened := engine }
  set { after with
    workspace := after.workspace.keepStore path after.opened.store, opened := () }
  match result with
  | .ok a => pure a
  | .error stop => throw stop

/-- Lets the engine act. What it writes down is not put out. -/
def act (action : Act (Engine Unit) α) : Run (Engine Unit) α := do
  let session ← get
  let (result, engine) := (action.run session.opened).value
  set { session with opened := engine }
  pure result

def onStore (op : Store.Op α) : Run (Engine Unit) (Outcome α) := act (Engine.onStore op)

end Run

end AllowPolicy.Command
