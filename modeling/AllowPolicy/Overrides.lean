namespace AllowPolicy

/-- The network an application asks about. -/
inductive Connectivity where
  | wifi
  | other
  | screenWifi
  | screenOther
  deriving DecidableEq, Repr

namespace Connectivity

def name : Connectivity → String
  | .wifi => "wifi"
  | .other => "other"
  | .screenWifi => "screen-wifi"
  | .screenOther => "screen-other"

def all : List Connectivity := [.wifi, .other, .screenWifi, .screenOther]

def ofName? (name : String) : Option Connectivity := all.find? (·.name == name)

end Connectivity

/-- What is decided for an application: yes or no, or a number of which only zero means no. -/
inductive Verdict where
  | flag (allowed : Bool)
  | number (n : Int)
  deriving DecidableEq, Repr

namespace Verdict

def toInt : Verdict → Int
  | .flag allowed => if allowed then 1 else 0
  | .number n => n

end Verdict

/-- A decision for each application that has one of its own. -/
structure Overrides (κ ν : Type) where
  entries : List (κ × ν) := []
  deriving DecidableEq, Repr

namespace Overrides

variable {κ ν : Type} [DecidableEq κ]

def get? (table : Overrides κ ν) (key : κ) : Option ν := table.entries.lookup key

def has (table : Overrides κ ν) (key : κ) : Bool := (table.get? key).isSome

def size (table : Overrides κ ν) : Nat := table.entries.length

def set (table : Overrides κ ν) (key : κ) (value : ν) : Overrides κ ν :=
  if table.has key then
    ⟨table.entries.map fun (k, v) => if k = key then (k, value) else (k, v)⟩
  else ⟨table.entries ++ [(key, value)]⟩

def remove (table : Overrides κ ν) (key : κ) : Overrides κ ν :=
  ⟨table.entries.filter (·.1 ≠ key)⟩

/-- The decision for an application on a network, or `default` if it has none. Today every network
    is answered from the same table. -/
def query (table : Overrides κ ν) (_ : Connectivity) (key : κ) (default : ν) : ν :=
  (table.get? key).getD default

/-- The table with the given decisions, of which the last for an application counts. -/
def ofList (entries : List (κ × ν)) : Overrides κ ν :=
  entries.foldl (fun table (key, value) => table.set key value) {}

end Overrides

end AllowPolicy
