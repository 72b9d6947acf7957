import AllowPolicy.Command.Run
import AllowPolicy.Database.Text

open AllowPolicy

namespace AllowPolicy.Main

/-- How the program is called. -/
def usage : String :=
  "Usage: [--version] COMMAND [OPTIONS] [ARGUMENT]\n" ++
  "Commands: parse RULE, add RULE, list, enact ID, load, override NAME, query NAME, toggle\n"

/-- What stands under a name, if anything does. -/
def look (path : String) : IO (Option Workspace.Entry) := do
  try
    let content ← IO.FS.readFile path
    pure (some (match Database.ofText? content with
      | some db => .database db
      | none => .text content))
  catch
    | .noFileOrDirectory .. => pure none
    | _ => pure (some .directory)

/-- The workspace with what stands on the way of a path. -/
def survey (workspace : Workspace) (path : Path) : IO Workspace := do
  let mut known := workspace
  let mut place : Place := .start path
  let mut passed : List String := []
  for name in path.names do
    place := if name = ".." then place.around else name :: place
    passed := passed ++ [name]
    if let some entry ← look { path with names := passed }.shown then known := known.put place entry
  pure known

/-- The database of a command, in the workspace with its settings file. -/
def databasePath (workspace : Workspace) (command : Command) : Path :=
  let configured : Settings :=
    match command.config?.map workspace.settings with
    | some (.ok settings) => settings
    | _ => {}
  .ofText (command.database?.getD configured.database)

def accounts : IO (List (String × Int)) := do
  try
    let content ← IO.FS.readFile "/etc/passwd"
    pure ((content.splitOn "\n").filterMap fun line =>
      match line.splitOn ":" with
      | name :: _ :: uid :: _ => uid.toInt?.map fun uid => (name, uid)
      | _ => none)
  catch _ => pure []

/-- Puts out what a command has to say. -/
def put : Command.Output → IO Unit
  | .text s => IO.print s
  | .listing rules => IO.println (Value.list (rules.map StoredRule.toValue)).jsonIndented
  | .pause seconds => IO.sleep (seconds * 1000).toUInt32

/-- Keeps the database of a command in its file. -/
def keep (workspace : Workspace) (path : Path) : IO Unit := do
  if let .ok (.database db) := workspace.find? path then IO.FS.writeFile path.shown db.toText

/-- Runs a command line and answers its exit code. -/
def run (args : List String) : IO UInt32 := do
  match Command.request args with
  | .help => IO.print usage; pure 0
  | .misused => IO.eprint usage; pure 2
  | request =>
    let workspace ← match request with
      | .command command => do
        let known ← match command.config? with
          | some path => survey {} (.ofText path)
          | none => pure {}
        survey known (databasePath known command)
      | _ => pure {}
    let ending := Command.execute args (← accounts) workspace
    ending.output.forM put
    if let .command command := request then keep ending.workspace (databasePath workspace command)
    if ending.failure.isSome then IO.eprintln "The command ended because of an unexpected failure."
    pure ending.exit.toUInt32

end AllowPolicy.Main

def main (args : List String) : IO UInt32 := Main.run args
