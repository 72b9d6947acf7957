import AllowPolicy.Command.Session
import AllowPolicy.Rule.Schema

namespace AllowPolicy.Command

open Run

def stateWord (enabled : Bool) : String := if enabled then green "enabled" else red "disabled"

/-- What a rule line means: the rule, or data about why there is none. -/
def meaning (result : Outcome (Option ScopedRule)) : Run Unit (Except Value ScopedRule) :=
  match result with
  | .ok (some rule) => pure (.ok rule)
  | .ok none =>
    pure (.error
      (.record [("error_type", .text "NotARule"), ("message", .text "Not an allow rule")]))
  | .error failure =>
    match fault? failure with
    | some fault => pure (.error fault.toValue)
    | none => throw (.crash failure)

def runParse [Surrogates] [Console] [Yaml.Reads] (line : String) (config : Option String)
    (json : Bool) : Run Unit Unit := do
  let settings ← settings { config }
  let result ← meaning (RuleLine.parseStrict (← resolver settings) line).value
  let shown (rule error : Value) : Value :=
    .record [("ruletext", .text line), ("rule", rule), ("error", error)]
  match result with
  | .ok entry =>
    let rule := entry.rule
    let scope := if entry.isGlobal then "global" else toString entry.scope
    if json then tell (shown entry.toValue .null)
    else say (green "✓" ++ " " ++ rule.kind.name ++ " rule [cyan]" ++ rule.pattern ++
      "[/cyan] (scope: " ++ scope ++ ", priority: " ++ toString rule.priority ++ ")")
  | .error error =>
    if json then tell (shown .null error)
    else
      let message := match error.field? "message" with
        | some (.text s) => s
        | _ => ""
      say ("[yellow]✗[/yellow] No rule: " ++ message)
    exit 1

/-- Ends the command unless a line gives a rule. -/
def checkLine [Surrogates] [Console] (line : String) : Run (Engine Unit) Unit := do
  let resolver := (← get).opened.resolver
  match ← expectOr "Refusing rule: " (RuleLine.parseStrict resolver line).value with
  | none => refuse "Refusing rule: not an allow rule"
  | some _ => pure ()

/-- Stores a rule line, if it is to be checked only one that gives a rule. -/
def runAdd [Surrogates] [Console] [Yaml.Reads] (line : String) (enacted check : Bool)
    (files : Files) : Run Unit Unit := do
  withEngine (← settings files) do
    if check then checkLine line
    let id ← expectOr "" (← act (Engine.addRule () (.text line) (if enacted then 1 else 0)))
    say (green "✓" ++ " Stored rule [bold]" ++ toString id ++ "[/bold]")

def runList [Console] [Yaml.Reads] (files : Files) (json : Bool) : Run Unit Unit := do
  let rules ← withEngine (← settings files) do expectOr "" (← onStore Store.listRules)
  if json then put (.listing rules)
  else if rules.isEmpty then say (dim "No rules stored.")
  else
    let row (rule : StoredRule) : List String :=
      [toString rule.id, if rule.enacted then green "yes" else dim "no", rule.text]
    let columns : List Screen.Column := [⟨"ID", some 5⟩, ⟨"Enacted", some 8⟩, ⟨"Rule", none⟩]
    sayTable columns (rules.map row)

def runEnact [Console] [Yaml.Reads] (id : Int) (enacted : Bool) (files : Files) :
    Run Unit Unit := do
  withEngine (← settings files) do
    let found ← expectOr "" (← act (Engine.setEnacted () id (if enacted then 1 else 0)))
    if !found then refuse ("Rule not found: " ++ toString id)
  say (green "✓" ++ " Rule " ++ toString id ++ (if enacted then " enacted" else " disabled"))

/-- The rules in force and the report of their load as data. -/
def loadValue (report : LoadReport) (allowlist : Allowlist) : Value :=
  let rules (rules : List Rule) : Value := .list (rules.map Rule.toValue)
  .record [("scanned", .int report.scanned), ("loaded", .int report.loaded),
    ("skipped", .int report.skipped), ("global", rules allowlist.global),
    ("apps", .record (allowlist.apps.map fun (uid, own) => (toString uid, rules own)))]

/-- The rows of a table of rules, the rules of every application first and then those of single ones
    by identity. -/
def loadRows (allowlist : Allowlist) : List (List String) :=
  let row (scope : String) (rule : Rule) : List String :=
    [scope, rule.kind.name, rule.pattern, toString rule.priority]
  let apps := allowlist.apps.mergeSort fun a b => a.1 ≤ b.1
  allowlist.global.map (row "global") ++ apps.flatMap fun (uid, own) => own.map (row (toString uid))

def reportLine (report : LoadReport) : String :=
  dim ("Rows: " ++ toString report.scanned ++
    " | Global: " ++ toString report.global ++ " | App: " ++
    toString report.app ++ " | Skipped: " ++ toString report.skipped)

def runLoad [Surrogates] [Console] [Yaml.Reads] (files : Files) (json : Bool) :
    Run Unit Unit := do
  let (report, allowlist) ← withEngine (← settings files) do
    let report ← expect report (← act (Engine.refresh ()))
    pure (report, (← get).opened.allowlist)
  if json then tell (loadValue report allowlist)
  else
    sayTable [⟨"Scope", none⟩, ⟨"Kind", some 7⟩, ⟨"Pattern", none⟩, ⟨"Priority", some 8⟩]
      (loadRows allowlist)
    say (reportLine report)
where
  /-- Reports why there was no load. -/
  report (fault : Fault) : Run (Engine Unit) Unit :=
    if json then tell (fault.toValue.withFirst "error" (.bool true))
    else say (red ("Load aborted: " ++ fault.shown))

def runOverride [Surrogates] [Console] [Yaml.Reads] (name : String) (allow : Option Bool)
    (clear : Bool) (files : Files) : Run Unit Unit := do
  let change ← match allow, clear with
    | some allowed, false => pure (some allowed)
    | none, true => pure none
    | _, _ => refuse "Pass exactly one of --allow, --deny or --clear"
  let done ← withEngine (← settings files) do
    match change with
    | some allowed =>
      expectOr "" (← act (Engine.setOverride (some name) (.flag allowed)))
      pure (if allowed then " -> allow" else " -> deny")
    | none =>
      let removed ← expectOr "" (← act (Engine.removeOverride (some name)))
      pure (if removed then " cleared" else " had no override")
  say (green "✓" ++ " " ++ name ++ done)

def runQuery [Surrogates] [Console] [Yaml.Reads] (name : String) (on : Connectivity)
    (default : Bool) (files : Files) (json : Bool) : Run Unit Unit := do
  let stored ← withEngine (← settings files) do expectOr "" (← onStore Store.overrides)
  let enabled := stored.query on (some name) default
  if json then
    let v := Value.record
      [("packagename", .text name), ("context", .text on.name), ("enabled", .bool enabled)]
    put (.text (v.jsonLine ++ "\n"))
  else say (name ++ " (" ++ on.name ++ "): " ++ stateWord enabled)

/-- The longest time that can be waited, in seconds. -/
def longestWait : Float := 9223372036.854776

/-- Waits for flips and shows each; `seen` were shown already. -/
def showFlips [Console] (interval : Float) (enabled : Bool) (seen : Nat) :
    (more : Nat) → Run Unit Unit
  | 0 => pure ()
  | more + 1 => do
    put (.pause interval)
    say (dim (toString (seen + 1)) ++ " " ++ rulesChanged ++ ": " ++ stateWord (!enabled))
    showFlips interval (!enabled) (seen + 1) more

def runToggle [Console] [Yaml.Reads] (count : Int) (interval : Option Float)
    (config : Option String) : Run Unit Unit := do
  let settings ← settings { config }
  let seconds := interval.getD settings.toggle.interval
  if seconds ≤ 0 then refuse "Interval must be positive"
  if seconds.isNaN then refuse ("Only 0 of " ++ toString count ++ " firings observed")
  if longestWait ≤ seconds * Float.ofInt count + seconds + 5 then
    throw (.crash (.overflow "timestamp out of range for platform time_t"))
  showFlips seconds settings.toggle.startEnabled 0 count.toNat

def config? : Command → Option String
  | .parse _ config _ | .toggle _ _ config => config
  | .add _ _ _ files | .list files _ | .enact _ _ files | .load files _
  | .override _ _ _ files | .query _ _ _ files _ => files.config

def database? : Command → Option String
  | .parse _ _ _ | .toggle _ _ _ => none
  | .add _ _ _ files | .list files _ | .enact _ _ files | .load files _
  | .override _ _ _ files | .query _ _ _ files _ => files.database

def run [Surrogates] [Console] [Yaml.Reads] (command : Command) : Run Unit Unit := do
  if (command.config?.toList ++ command.database?.toList).any (·.toList.contains '\x00') then
    throw (.crash (.badValue "embedded null byte"))
  match command with
  | .parse line config json => runParse line config json
  | .add line enacted check files => runAdd line enacted check files
  | .list files json => runList files json
  | .enact id enacted files => runEnact id enacted files
  | .load files json => runLoad files json
  | .override name allow clear files => runOverride name allow clear files
  | .query name on default files json => runQuery name on default files json
  | .toggle count interval config => runToggle count interval config

/-- How a command ended. -/
structure Ending where
  exit : Nat
  output : List Output := []
  /-- The failure that ended the command without a report. -/
  failure : Option Failure := none
  workspace : Workspace

def versionLine : String := "[bold]netrules[/bold] version 0.1.0"

/-- How a part of a command ends in a workspace. -/
def Run.ending (run : Run Unit Unit) (accounts : List (String × Int)) (workspace : Workspace) :
    Ending :=
  let (result, session) := run.run.run { workspace, accounts, opened := () }
  let ending : Ending := { exit := 0, output := session.output, workspace := session.workspace }
  match result with
  | .ok () => ending
  | .error (.exit exit) => { ending with exit }
  | .error (.crash failure) => { ending with exit := 1, failure := some failure }

/-- Does what a command line asks for. The text of the help is not written here. -/
def execute [Surrogates] [Console] [Yaml.Reads] (args : List String)
    (accounts : List (String × Int)) (workspace : Workspace) : Ending :=
  match request args with
  | .misused => { exit := 2, workspace }
  | .help => { exit := 0, workspace }
  | .version => (say versionLine).ending accounts workspace
  | .command command => command.run.ending accounts workspace

end AllowPolicy.Command
