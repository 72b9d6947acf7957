import AllowPolicy.Decimal.Binary64

namespace AllowPolicy

/-- Data whose shape is not known beforehand: what a settings file, a request or an error's context
    may hold. The entries of a table keep the order in which their keys were first given. -/
inductive Value where
  | null
  | bool (b : Bool)
  | int (n : Int)
  | real (x : Float)
  | text (s : String)
  | bytes (content : List UInt8)
  /-- A date or a time, kept as it is displayed. -/
  | stamp (shown : String)
  | list (items : List Value)
  | table (entries : List (Value × Value))

instance : Inhabited Value := ⟨.null⟩

namespace Value

/-- A table whose keys are texts. -/
def record (entries : List (String × Value)) : Value :=
  .table (entries.map fun (key, value) => (.text key, value))

/-- The kind of a value, as messages name it. -/
def kindName : Value → String
  | .null => "NoneType"
  | .bool _ => "bool"
  | .int _ => "int"
  | .real _ => "float"
  | .text _ => "str"
  | .bytes _ => "bytes"
  | .stamp _ => "date"
  | .list _ => "list"
  | .table _ => "dict"

/-- Nothing, no, zero and what is empty count as absent. -/
def isAbsent : Value → Bool
  | .null => true
  | .bool b => !b
  | .int n => n == 0
  | .real x => x == 0
  | .text s => s.isEmpty
  | .bytes content => content.isEmpty
  | .stamp _ => false
  | .list items => items.isEmpty
  | .table entries => entries.isEmpty

/-- The exact integer a value stands for as a number; the two truth values are one and zero. -/
def integer? : Value → Option Int
  | .bool b => some (if b then 1 else 0)
  | .int n => some n
  | .real x => Decimal.integral? x
  | _ => none

mutual

/-- Two values are the same: numbers by their value whatever their kind, tables whatever the order
    of their entries. -/
def same : Value → Value → Bool
  | .null, .null => true
  | .text s, .text t => s == t
  | .bytes a, .bytes b => a == b
  | .stamp a, .stamp b => a == b
  | .list a, .list b => sameItems a b
  | .table a, .table b => a.length == b.length && sameEntries a b
  | .real x, .real y => x == y
  | a, b =>
    match a.integer?, b.integer? with
    | some m, some n => m == n
    | _, _ => false

/-- Item by item the same. -/
def sameItems : List Value → List Value → Bool
  | [], [] => true
  | a :: as, b :: bs => same a b && sameItems as bs
  | _, _ => false

/-- Every entry has an entry with the same key and value on the other side. -/
def sameEntries : List (Value × Value) → List (Value × Value) → Bool
  | [], _ => true
  | (key, value) :: rest, other => hasEntry key value other && sameEntries rest other

/-- Some entry has the same key and value. -/
def hasEntry (key value : Value) : List (Value × Value) → Bool
  | [] => false
  | (k, v) :: rest => (same key k && same value v) || hasEntry key value rest

end

/-- The value under a key of a table. -/
def get? (entries : List (Value × Value)) (key : Value) : Option Value :=
  (entries.find? fun (k, _) => k.same key).map (·.2)

/-- The value of a field, if the value is a table with such a field. -/
def field? (v : Value) (name : String) : Option Value :=
  match v with
  | .table entries => get? entries (.text name)
  | _ => none

/-- A table with one more field before the others. -/
def withFirst (v : Value) (name : String) (value : Value) : Value :=
  match v with
  | .table entries => .table ((.text name, value) :: entries)
  | v => v

/-- The entries with `value` under `key`: in the old place if the key is there, else at the end. -/
def put (entries : List (Value × Value)) (key value : Value) : List (Value × Value) :=
  if entries.any fun (k, _) => k.same key then
    entries.map fun (k, v) => if k.same key then (k, value) else (k, v)
  else entries ++ [(key, value)]

end Value

end AllowPolicy
