import AllowPolicy.Failure

namespace AllowPolicy

/-- How urgent a log record is. -/
inductive Level where
  | debug
  | info
  | warning
  | error
  | critical
  deriving DecidableEq, Repr

def Level.name : Level → String
  | .debug => "DEBUG"
  | .info => "INFO"
  | .warning => "WARNING"
  | .error => "ERROR"
  | .critical => "CRITICAL"

/-- All levels, from the least urgent. -/
def Level.all : List Level := [.debug, .info, .warning, .error, .critical]

/-- A log record, with the failure that it reports if it was written for one. -/
structure Record where
  level : Level
  text : String
  failure : Option Failure := none

/-- A result together with the records written on the way to it, oldest first. -/
structure Logged (α : Type) where
  value : α
  journal : List Record := []

namespace Logged

instance : Monad Logged where
  pure a := { value := a }
  bind m f := { value := (f m.value).value, journal := m.journal ++ (f m.value).journal }

@[simp] theorem value_pure {α : Type} (a : α) : (pure a : Logged α).value = a := rfl

@[simp] theorem journal_pure {α : Type} (a : α) : (pure a : Logged α).journal = [] := rfl

@[simp] theorem value_bind {α β : Type} (m : Logged α) (f : α → Logged β) :
    (m >>= f).value = (f m.value).value := rfl

@[simp] theorem journal_bind {α β : Type} (m : Logged α) (f : α → Logged β) :
    (m >>= f).journal = m.journal ++ (f m.value).journal := rfl

end Logged

def note (record : Record) : Logged Unit := { value := (), journal := [record] }

@[simp] theorem value_note (record : Record) : (note record).value = () := rfl

@[simp] theorem journal_note (record : Record) : (note record).journal = [record] := rfl

def log (level : Level) (text : String) : Logged Unit := note { level, text }

@[simp] theorem value_log (level : Level) (text : String) : (log level text).value = () := rfl

@[simp] theorem journal_log (level : Level) (text : String) :
    (log level text).journal = [{ level, text }] := rfl

/-- A change of state that writes records. -/
abbrev Act (σ : Type) (α : Type) := StateT σ Logged α

end AllowPolicy
