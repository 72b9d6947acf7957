import AllowPolicy.Command.Options
import AllowPolicy.Decimal.Integer
import AllowPolicy.Decimal.Real
import AllowPolicy.Overrides

namespace AllowPolicy

/-- The files that a command works with, where the usual ones are not meant. -/
structure Command.Files where
  config : Option String := none
  database : Option String := none
  deriving DecidableEq, Repr

/-- What the program can be told to do. -/
inductive Command where
  /-- Shows what a rule line means. -/
  | parse (line : String) (config : Option String) (json : Bool)
  /-- Stores a rule line. -/
  | add (line : String) (enacted check : Bool) (files : Command.Files)
  /-- Lists the stored rules. -/
  | list (files : Command.Files) (json : Bool)
  /-- Puts a stored rule in or out of force. -/
  | enact (id : Int) (enacted : Bool) (files : Command.Files)
  /-- Loads the rules in force and shows them. -/
  | load (files : Command.Files) (json : Bool)
  /-- Sets or clears the override of an application. -/
  | override (name : String) (allow : Option Bool) (clear : Bool) (files : Command.Files)
  /-- Answers whether an application is allowed. -/
  | query (name : String) (on : Connectivity) (default : Bool) (files : Command.Files) (json : Bool)
  /-- Turns the rules on and off a number of times. -/
  | toggle (count : Int) (interval : Option Float) (config : Option String)

/-- What a command line asks for. -/
inductive Request where
  /-- The line breaks the rules. -/
  | misused
  | help
  | version
  | command (command : Command)

namespace Command

def helpChoice : Choice := ⟨"--help", .help, .flag true⟩

/-- The options before the name of a command. -/
def outerChoices : List Choice :=
  [helpChoice, ⟨"--version", .version, .flag true⟩, ⟨"-v", .version, .flag true⟩]

def configChoices : List Choice := [⟨"--config", .config, .text⟩, ⟨"-c", .config, .text⟩]

def fileChoices : List Choice := configChoices ++ [⟨"--db", .database, .text⟩]

def jsonChoice : Choice := ⟨"--json", .json, .flag true⟩

/-- The options of a command; nothing for an unknown name. -/
def choices? : (name : String) → Option (List Choice)
  | "parse" => some (jsonChoice :: configChoices)
  | "add" => some ([⟨"--disabled", .disabled, .flag true⟩, ⟨"--check", .check, .flag true⟩,
      ⟨"--no-check", .check, .flag false⟩] ++ fileChoices)
  | "list" => some (jsonChoice :: fileChoices)
  | "enact" => some (⟨"--disable", .disable, .flag true⟩ :: fileChoices)
  | "load" => some (jsonChoice :: fileChoices)
  | "override" => some ([⟨"--allow", .allow, .flag true⟩, ⟨"--deny", .allow, .flag false⟩,
      ⟨"--clear", .clear, .flag true⟩] ++ fileChoices)
  | "query" => some ([⟨"--context", .context, .text⟩, ⟨"--default", .default, .flag true⟩,
      ⟨"--no-default", .default, .flag false⟩, jsonChoice] ++ fileChoices)
  | "toggle" => some ([⟨"--count", .count, .text⟩, ⟨"-n", .count, .text⟩,
      ⟨"--interval", .interval, .text⟩] ++ configChoices)
  | _ => none

/-- The value of an option that may be left out, read by `f`; nothing if `f` cannot read it. -/
def optional {α : Type} (reading : Reading) (topic : Topic) (default : α) (f : String → Option α) :
    Option α :=
  match reading.text? topic with
  | none => some default
  | some s => f s

/-- A number of times, at least one. -/
def count? (s : String) : Option Int := (Decimal.spelled s).toOption.filter (1 ≤ ·)

/-- A number of seconds. -/
def seconds? (s : String) : Option (Option Float) :=
  (Decimal.readReal? (Text.trim Text.isBlank s.toList)).map some

/-- The command of a name with the options and operands that were read for it. -/
def ofReading? (name : String) (reading : Reading) : Option Command := do
  let files : Files := { config := reading.text? .config, database := reading.text? .database }
  let flag (topic : Topic) (default : Bool) := (reading.flag? topic).getD default
  match name, reading.operands with
  | "parse", [line] => pure (.parse line files.config (flag .json false))
  | "add", [line] => pure (.add line (!flag .disabled false) (flag .check true) files)
  | "list", [] => pure (.list files (flag .json false))
  | "enact", [id] => pure (.enact (← (Decimal.spelled id).toOption) (!flag .disable false) files)
  | "load", [] => pure (.load files (flag .json false))
  | "override", [name] => pure (.override name (reading.flag? .allow) (flag .clear false) files)
  | "query", [name] =>
    let on ← optional reading .context .wifi Connectivity.ofName?
    pure (.query name on (flag .default true) files (flag .json false))
  | "toggle", [] =>
    let count ← optional reading .count 3 count?
    let interval ← optional reading .interval none seconds?
    pure (.toggle count interval files.config)
  | _, _ => none

/-- What the arguments behind the name of a command ask for. -/
def requestFor (name : String) (args : List String) : Request :=
  match (choices? name).bind fun choices => read? (helpChoice :: choices) true args with
  | none => .misused
  | some reading =>
    if (reading.flag? .help).isSome then .help
    else
      match ofReading? name reading with
      | some command => .command command
      | none => .misused

def request (args : List String) : Request :=
  match read? outerChoices false args with
  | none => .misused
  | some { options := (.version, _) :: _, .. } => .version
  | some { options := _ :: _, .. } => .help
  | some { operands := [], .. } => .misused
  | some { operands := name :: rest, .. } => requestFor name rest

end Command

end AllowPolicy
