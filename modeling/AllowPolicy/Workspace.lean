import AllowPolicy.Path
import AllowPolicy.Settings.Document
import AllowPolicy.Store

namespace AllowPolicy

/-- A place for a file: the names on the way to it, the last one first. A way that leads out of the
    working directory starts with the names for that. -/
abbrev Place := List String

namespace Place

/-- The place of the directory around. The root is around itself. -/
def around : Place → Place
  | [] => [".."]
  | ".." :: rest => ".." :: ".." :: rest
  | ["/"] => ["/"]
  | _ :: rest => rest

/-- The place where the way of a path starts. -/
def start (path : Path) : Place := if path.root = "" then [] else ["/"]

/-- The working directory itself, or a directory that it lies in. -/
def isOuter (place : Place) : Bool := place.all (· = "..") || place = ["/"]

end Place

/-- What may stand in a place. -/
inductive Workspace.Entry where
  | directory
  | text (content : String)
  | database (content : Database)

/-- The working directory with what stands in it. What is there can be read and written: permissions
    are left out, and so are names that cannot be encoded. -/
structure Workspace where
  entries : List (Place × Workspace.Entry) := []

namespace Workspace

def at? (workspace : Workspace) (place : Place) : Option Entry :=
  if place.isOuter then some .directory else workspace.entries.lookup place

/-- Puts something into a place, over what was there. -/
def put (workspace : Workspace) (place : Place) (entry : Entry) : Workspace :=
  ⟨(place, entry) :: workspace.entries.filter (·.1 ≠ place)⟩

/-- What is in the way to a name. -/
inductive Obstacle where
  | missing
  | notDirectory
  | nameTooLong
  deriving DecidableEq, Repr

/-- The longest name of a file, in bytes. -/
def longestName : Nat := 255

/-- What is in the way to a name in the directory `place`. -/
def obstacle? (workspace : Workspace) (place : Place) (name : String) : Option Obstacle :=
  match workspace.at? place with
  | none => some .missing
  | some .directory => if longestName < name.utf8ByteSize then some .nameTooLong else none
  | some _ => some .notDirectory

/-- Goes from directory to directory. -/
def follow (workspace : Workspace) (place : Place) : List String → Except Obstacle Place
  | [] => .ok place
  | name :: rest =>
    match workspace.obstacle? place name with
    | some obstacle => .error obstacle
    | none => workspace.follow (if name = ".." then place.around else name :: place) rest

/-- What a path leads to. -/
def find? (workspace : Workspace) (path : Path) : Except Obstacle Entry := do
  let place ← workspace.follow (.start path) path.names
  match workspace.at? place with
  | some entry => .ok entry
  | none => .error .missing

/-- A text with every end of line written in the same way. -/
def unixLines : List Char → List Char
  | '\r' :: '\n' :: rest => '\n' :: unixLines rest
  | '\r' :: rest => '\n' :: unixLines rest
  | c :: rest => c :: unixLines rest
  | [] => []

/-- The settings in the file of a path; the usual ones without a file. -/
def settings [Yaml.Reads] (workspace : Workspace) (given : String) : Outcome Settings :=
  let path := Path.ofText given
  if given.toList.contains '\x00' then .ok {}
  else
    match workspace.find? path with
    | .error .nameTooLong =>
      .error (.system ("[Errno 36] File name too long: " ++ Text.quoted path.shown))
    | .error _ => .ok {}
    | .ok .directory =>
      .error (.settings
        (.unreadable path.shown ("[Errno 21] Is a directory: " ++ Text.quoted path.shown)))
    | .ok (.database _) => .error .notText
    | .ok (.text content) => Settings.ofText path.shown (.ofList (unixLines content.toList))

/-- The path of a database that is not kept in any file. -/
def inMemory : String := ":memory:"

/-- What is added to the name of a database for the file of its journal. -/
def journalEnding : String := "-journal"

/-- The place of a database. A name on the way is taken back by what leads out of it, whether there
    is such a directory or not. -/
def databasePlace? (workspace : Workspace) (place : Place) : List String → Option Place
  | [] => some place
  | name :: rest =>
    if name = ".." then workspace.databasePlace? place.around rest
    else
      match workspace.obstacle? place name with
      | none | some .missing => workspace.databasePlace? (name :: place) rest
      | some _ => none

/-- A connection that could not be made. -/
def unopened (path : Path) : Failure :=
  .fault (.of .connection {
    message := "Failed to connect to database: unable to open database file"
    details := [(.operation, "connect"), (.dbPath, path.shown)] })

/-- A database whose tables could not be made. -/
def uninitialised (reason : String) : Failure :=
  .fault (.of .write {
    details := [(.operation, "init_schema"), (.underlyingError, reason)] })

/-- What stands in the file of a database, and its place. A file that is not there yet, or as good
    as empty, is an empty database. -/
def database (workspace : Workspace) (path : Path) : Outcome (Place × Database) := do
  if path.names.any (·.toList.contains '\x00') then throw (.badValue "embedded null byte")
  let some place := workspace.databasePlace? (.start path) path.names | throw (unopened path)
  let found ← match workspace.at? place with
    | some .directory => throw (unopened path)
    | some (.text content) =>
      if 1 < content.utf8ByteSize then throw (uninitialised "file is not a database") else pure {}
    | some (.database db) => pure db
    | none =>
      if let some .directory := workspace.at? place.around then pure {} else throw (unopened path)
  if (place.headD "" ++ journalEnding).utf8ByteSize > longestName then
    throw (uninitialised "unable to open database file")
  pure (place, found)

/-- The store in the file of a path. -/
def openStore (workspace : Workspace) (path : Path) : Outcome Store :=
  if path.shown = inMemory then .ok (.connect {} true)
  else do
    let (_, db) ← workspace.database path
    pure (.connect db false)

/-- The workspace after the store in the file of a path was used. -/
def keepStore (workspace : Workspace) (path : Path) (store : Store) : Workspace :=
  if store.volatile then workspace
  else
    match workspace.database path with
    | .ok (place, _) => workspace.put place (.database store.saved)
    | .error _ => workspace

end Workspace

end AllowPolicy
