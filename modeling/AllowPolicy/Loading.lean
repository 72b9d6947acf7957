import AllowPolicy.Allowlist
import AllowPolicy.Lock
import AllowPolicy.RuleLine

namespace AllowPolicy

/-- What a load did: rows read, rules for every application, rules for single ones, and rows that
    gave no rule. -/
structure LoadReport where
  scanned : Int := 0
  global : Int := 0
  app : Int := 0
  skipped : Int := 0
  deriving DecidableEq, Repr

namespace LoadReport

def loaded (report : LoadReport) : Int := report.global + report.app

/-- The record of a finished load. -/
def summary (report : LoadReport) : String :=
  "Loaded " ++ toString report.loaded ++ " rules (" ++ toString report.global ++ " global, " ++
    toString report.app ++ " app) from " ++ toString report.scanned ++ " rows, " ++
    toString report.skipped ++ " skipped"

end LoadReport

/-- A row of a rule source: what stands in the column of the rule text, if the row has one. -/
structure Row where
  text : Option Value

def Row.ofText (text : String) : Row := ⟨some (.text text)⟩

/-- The rows of a rule source in order. A source may fail on the way. -/
abbrev Rows := List (Outcome Row)

/-- Where rules go. What a refused rule left behind is kept. -/
structure Sink (σ : Type) where
  addGlobal : Rule → StateM σ (Outcome Unit)
  addApp : Nat → Rule → StateM σ (Outcome Unit)

namespace Loading

/-- What a scan has read so far. -/
structure Scan where
  rows : Nat := 0
  skipped : Nat := 0
  staged : List ScopedRule := []

def textOf (row : Row) : Outcome String :=
  match row.text with
  | some (.text text) => .ok text
  | some value =>
    .error (.unsupported ("'" ++ value.kindName ++ "' object has no attribute 'rstrip'"))
  | none => .error (.missingKey "'ruletext'")

/-- The record of a load that a broken line ends. -/
def abortText (fault : Fault) (text : String) : String :=
  "Aborting rule load: " ++ fault.message ++ " in rule " ++ Text.quoted text

/-- The rule of a text. A line that breaks a structural rule is noted before it ends the load. -/
def readRule [Surrogates] (resolver : Resolver) (text : String) :
    Logged (Outcome (Option ScopedRule)) := do
  match ← RuleLine.parse resolver text with
  | .error (.fault fault) =>
    if fault.kind.isA .duplicateField then log .error (abortText fault text)
    pure (.error (.fault fault))
  | other => pure other

/-- The rule of a row, if it gives one. -/
def readRow [Surrogates] (resolver : Resolver) (row : Outcome Row) :
    Logged (Outcome (Option ScopedRule)) :=
  match row.bind textOf with
  | .error failure => pure (.error failure)
  | .ok text => readRule resolver text

/-- The scan with one more row, and the rule it gave. -/
def Scan.add (scan : Scan) : Option ScopedRule → Scan
  | none => { scan with rows := scan.rows + 1, skipped := scan.skipped + 1 }
  | some rule => { scan with rows := scan.rows + 1, staged := scan.staged ++ [rule] }

/-- Reads rows in order, up to the first that ends the load. -/
def scanRows [Surrogates] (resolver : Resolver) (scan : Scan) : Rows → Logged (Scan × Outcome Unit)
  | [] => pure (scan, .ok ())
  | row :: rest => do
    match ← readRow resolver row with
    | .ok rule => scanRows resolver (scan.add rule) rest
    | .error failure =>
      let rows := if row.isOk then scan.rows + 1 else scan.rows
      pure ({ scan with rows }, .error failure)

variable {σ : Type}

/-- Offers one rule to the sink. -/
def offer (sink : Sink σ) (entry : ScopedRule) : StateM σ (Outcome Unit) :=
  if entry.isGlobal then sink.addGlobal entry.rule else sink.addApp entry.scope entry.rule

/-- The record of a rule that has reached its place. -/
def routedText (entry : ScopedRule) : String :=
  "Routed " ++ entry.rule.kind.name ++ " rule " ++ entry.rule.pattern ++ " to scope " ++
    toString entry.scope

/-- Hands rules to the sink in order, up to the first that it refuses. -/
def route (sink : Sink σ) : List ScopedRule → Act σ (Outcome Unit)
  | [] => pure (.ok ())
  | entry :: rest => do
    let (answer, state) := (offer sink entry).run (← get)
    set state
    match answer with
    | .error failure => pure (.error failure)
    | .ok () =>
      log .debug (routedText entry)
      route sink rest

/-- The report of a scan whose rules all found their place. -/
def Scan.report (scan : Scan) : LoadReport where
  scanned := scan.rows
  global := (scan.staged.filter (·.isGlobal)).length
  app := (scan.staged.filter (!·.isGlobal)).length
  skipped := scan.skipped

/-- How a load went. -/
structure Ending (ι : Type) where
  result : Outcome LoadReport
  rows : Nat
  /-- The lock as it was while the load ran. -/
  lock : Lock ι

/-- Scans the rows and then routes their rules. -/
def run [Surrogates] {ι : Type} (sink : Sink σ) (resolver : Resolver) (rows : Rows)
    (lock : Lock ι) :
    Act σ (Ending ι) := do
  let (scan, scanned) ← scanRows resolver {} rows
  match scanned with
  | .error failure => pure ⟨.error failure, scan.rows, lock⟩
  | .ok () =>
    match ← route sink scan.staged with
    | .error failure => pure ⟨.error failure, scan.rows, lock⟩
    | .ok () =>
      log .info scan.report.summary
      pure ⟨.ok scan.report, scan.rows, lock⟩

/-- Loads while the thread holds a read permit: the lock and the sink afterwards, and how the load
    went. -/
def load [Surrogates] {ι : Type} [DecidableEq ι] (lock : Lock ι) (thread : ι) (sink : Sink σ)
    (resolver : Resolver) (rows : Rows) (state : σ) : Outcome (Lock ι × Logged (Ending ι × σ)) :=
  lock.sharing thread fun held => (run sink resolver rows held).run state

end Loading

/-- An allowlist as a place where rules go. -/
def Allowlist.sink : Sink Allowlist where
  addGlobal rule := fun allowlist => (.ok (), allowlist.addGlobal rule)
  addApp uid rule := fun allowlist =>
    match allowlist.addApp uid rule with
    | .ok added => (.ok (), added)
    | .error failure => (.error failure, allowlist)

end AllowPolicy
