import AllowPolicy.Allowlist
import AllowPolicy.Bus
import AllowPolicy.Calendar
import AllowPolicy.Calendar.Moment
import AllowPolicy.Command
import AllowPolicy.Command.Options
import AllowPolicy.Command.Run
import AllowPolicy.Command.Session
import AllowPolicy.Constraints
import AllowPolicy.Database
import AllowPolicy.Database.Text
import AllowPolicy.Decimal.Binary64
import AllowPolicy.Decimal.Fixed
import AllowPolicy.Decimal.Integer
import AllowPolicy.Decimal.Real
import AllowPolicy.Decimal.Shortest
import AllowPolicy.Decimal.Significant
import AllowPolicy.Engine
import AllowPolicy.Failure
import AllowPolicy.Fault
import AllowPolicy.Identity
import AllowPolicy.Journal
import AllowPolicy.Loading
import AllowPolicy.Lock
import AllowPolicy.Main
import AllowPolicy.Net.Ipv4
import AllowPolicy.Overrides
import AllowPolicy.Path
import AllowPolicy.Rule
import AllowPolicy.Rule.Host
import AllowPolicy.Rule.Matching
import AllowPolicy.Rule.Schema
import AllowPolicy.RuleLine
import AllowPolicy.Screen.Console
import AllowPolicy.Screen.Layout
import AllowPolicy.Screen.Markup
import AllowPolicy.Screen.Pictograph
import AllowPolicy.Screen.Pictograph.Table
import AllowPolicy.Screen.Width
import AllowPolicy.Settings
import AllowPolicy.Settings.Document
import AllowPolicy.Settings.Schema
import AllowPolicy.Store
import AllowPolicy.Store.Binding
import AllowPolicy.StoredRule
import AllowPolicy.Text.Blank
import AllowPolicy.Text.Digit
import AllowPolicy.Text.Lowercase
import AllowPolicy.Text.Lowercase.Table
import AllowPolicy.Text.Printable
import AllowPolicy.Text.Quoted
import AllowPolicy.Text.Ranges
import AllowPolicy.Text.Split
import AllowPolicy.Text.Surrogate
import AllowPolicy.Timer
import AllowPolicy.Toggle
import AllowPolicy.Validation.Checked
import AllowPolicy.Validation.Issue
import AllowPolicy.Validation.Scalar
import AllowPolicy.Value
import AllowPolicy.Value.Json
import AllowPolicy.Value.Literal
import AllowPolicy.Workspace
import AllowPolicy.Yaml
import AllowPolicy.Yaml.Cursor
import AllowPolicy.Yaml.Node
import AllowPolicy.Yaml.Reader
import AllowPolicy.Yaml.Scalar
import AllowPolicy.Yaml.Stamp
import AllowPolicy.Yaml.Tag
import AllowPolicy.Yaml.Token
import AllowPolicy.Yaml.Token.Scalar
import AllowPolicy.Yaml.Token.Scan
import AllowPolicy.Yaml.Token.Tag
import AllowPolicy.Proofs.Lookup
import AllowPolicy.Proofs.Entries
import AllowPolicy.Proofs.Fault.Lineage
import AllowPolicy.Proofs.Fault.Settled
import AllowPolicy.Proofs.Allowlist.Bucket
import AllowPolicy.Proofs.Allowlist.History
import AllowPolicy.Proofs.RuleLine.Entry
import AllowPolicy.Proofs.RuleLine.Formed
import AllowPolicy.Proofs.RuleLine.Grammar
import AllowPolicy.Proofs.RuleLine.Line
import AllowPolicy.Proofs.RuleLine.Order
import AllowPolicy.Proofs.RuleLine.Package
import AllowPolicy.Proofs.RuleLine.Puts
import AllowPolicy.Proofs.RuleLine.Remark
import AllowPolicy.Proofs.RuleLine.Said
import AllowPolicy.Proofs.Loading.Call
import AllowPolicy.Proofs.Loading.Exact
import AllowPolicy.Proofs.Loading.Outcome
import AllowPolicy.Proofs.Loading.Scan
import AllowPolicy.Proofs.Lock.Arrival
import AllowPolicy.Proofs.Lock.Bracket
import AllowPolicy.Proofs.Lock.Docket
import AllowPolicy.Proofs.Lock.Holds
import AllowPolicy.Proofs.Lock.Ledger
import AllowPolicy.Proofs.Lock.Permits
import AllowPolicy.Proofs.Lock.Refusal
import AllowPolicy.Proofs.Lock.Settling
import AllowPolicy.Proofs.Lock.Sound
import AllowPolicy.Proofs.Lock.Visit
import AllowPolicy.Proofs.Lock.Wakeup
import AllowPolicy.Proofs.Store.Change
import AllowPolicy.Proofs.Store.Contents
import AllowPolicy.Proofs.Store.Op
import AllowPolicy.Proofs.Store.Overrides
import AllowPolicy.Proofs.Store.RuleList
import AllowPolicy.Proofs.Store.RuleOps
import AllowPolicy.Proofs.Store.RuleTable
import AllowPolicy.Proofs.Store.Transaction
import AllowPolicy.Proofs.Engine.Callers
import AllowPolicy.Proofs.Engine.Coherent
import AllowPolicy.Proofs.Engine.Decision
import AllowPolicy.Proofs.Engine.Fleet
import AllowPolicy.Proofs.Engine.Generation
import AllowPolicy.Proofs.Engine.Host
import AllowPolicy.Proofs.Engine.Latest
import AllowPolicy.Proofs.Engine.Orderly
import AllowPolicy.Proofs.Engine.Own
import AllowPolicy.Proofs.Engine.Quiet
import AllowPolicy.Proofs.Engine.Refresh
import AllowPolicy.Proofs.Engine.Scans
import AllowPolicy.Proofs.Engine.Session
import AllowPolicy.Proofs.Engine.Traffic
import AllowPolicy.Proofs.Engine.Wired
import AllowPolicy.Proofs.Engine.Work
import AllowPolicy.Proofs.Settings.Valid
import AllowPolicy.Proofs.Loading.Safe
import AllowPolicy.Proofs.Loading.Account
import AllowPolicy.Proofs.Command.Session
import AllowPolicy.Proofs.Screen.Plain
import AllowPolicy.Proofs.Store.Fresh
import AllowPolicy.Proofs.Command.Confirmation
import AllowPolicy.Proofs.Workspace.Stored
import AllowPolicy.Proofs.Value.Json
import AllowPolicy.Proofs.Value.Written
import AllowPolicy.Proofs.Command.Work
import AllowPolicy.Proofs.Command.Ending
import AllowPolicy.Proofs.Command.History
import AllowPolicy.Proofs.Command.Stopped
import AllowPolicy.Proofs.Command.Query
import AllowPolicy.Proofs.Command.Exit
import AllowPolicy.Proofs.Command.Load
import AllowPolicy.Proofs.Command.Check
import AllowPolicy.Proofs.Store.Rollback
import AllowPolicy.Proofs.Screen.Bare
import AllowPolicy.Proofs.Command.Switching
import AllowPolicy.Proofs.Rule.Host
import AllowPolicy.Proofs.Text.Lowercase
import AllowPolicy.Proofs.Text.Surrogate
import AllowPolicy.Proofs.Rule.Spelling
import AllowPolicy.Proofs.Net.Address
import AllowPolicy.Proofs.Net.Network
import AllowPolicy.Proofs.Bus.Delivery
import AllowPolicy.Proofs.Bus.Snapshot
import AllowPolicy.Proofs.Bus.Register
import AllowPolicy.Proofs.Bus.Exchange
import AllowPolicy.Proofs.Timer.Pending
import AllowPolicy.Proofs.Timer.Runs
import AllowPolicy.Proofs.Timer.Calls
import AllowPolicy.Proofs.Toggle.Machine
import AllowPolicy.Proofs.Toggle.Crew
import AllowPolicy.Proofs.Toggle.Stop
import AllowPolicy.Proofs.Engine.Closing
import AllowPolicy.Proofs.Decimal.Plain
import AllowPolicy.Proofs.Yaml.Cause
import AllowPolicy.Proofs.Yaml.Reading
import AllowPolicy.Proofs.Yaml.Scanning
import AllowPolicy.Proofs.Yaml.Composing
import AllowPolicy.Proofs.Yaml.Checking
import AllowPolicy.Proofs.Yaml.Parts
import AllowPolicy.Proofs.Yaml.Form
import AllowPolicy.Proofs.Yaml.Uncaught
import AllowPolicy.Proofs.Settings.Contained
import AllowPolicy.Proofs.Settings.Fixed
import AllowPolicy.Proofs.Command.Configured
