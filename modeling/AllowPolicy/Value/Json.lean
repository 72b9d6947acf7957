import AllowPolicy.Text.Surrogate
import AllowPolicy.Value.Literal

namespace AllowPolicy.Value

/-- One unit of sixteen bits, by its number. -/
def jsonUnit (n : Nat) : List Char := '\\' :: 'u' :: Text.hexPadded 4 n

/-- How JSON text writes a character in ASCII; one beyond sixteen bits is written as two units, and
    one that stands for a surrogate as that. -/
def jsonChar [Surrogates] (c : Char) : List Char :=
  if let some n := Surrogates.number? c then jsonUnit n
  else if c = '"' ∨ c = '\\' then ['\\', c]
  else if c = '\n' then ['\\', 'n']
  else if c = '\r' then ['\\', 'r']
  else if c = '\t' then ['\\', 't']
  else if c = '\x0c' then ['\\', 'f']
  else if c = '\x08' then ['\\', 'b']
  else if ' ' ≤ c ∧ c ≤ '~' then [c]
  else if c.toNat < 0x10000 then jsonUnit c.toNat
  else
    let offset := c.toNat - 0x10000
    jsonUnit (0xd800 + offset / 0x400) ++ jsonUnit (0xdc00 + offset % 0x400)

def jsonText [Surrogates] (s : String) : String :=
  String.ofList ('"' :: s.toList.flatMap jsonChar ++ ['"'])

/-- A key as JSON writes it; keys are texts. -/
def jsonKey [Surrogates] : Value → String
  | .text s => jsonText s
  | key => jsonText key.literal

/-- What stands around and between the members of a list or table: a line end and an indentation
    each, or nothing. -/
structure JsonLayout where
  opening : String
  separator : String
  closing : String

/-- All on one line. -/
def JsonLayout.line : JsonLayout := ⟨"", ", ", ""⟩

/-- Every member on its own line, `depth` levels of two blanks deep. -/
def JsonLayout.indented (depth : Nat) : JsonLayout :=
  let inner := "\n" ++ String.ofList (List.replicate (2 * depth + 2) ' ')
  let outer := "\n" ++ String.ofList (List.replicate (2 * depth) ' ')
  ⟨inner, "," ++ inner, outer⟩

/-- Members between brackets; without members nothing stands between them. -/
def JsonLayout.join (layout : JsonLayout) (first last : String) (members : List String) : String :=
  if members.isEmpty then first ++ last
  else first ++ layout.opening ++ layout.separator.intercalate members ++ layout.closing ++ last

mutual

/-- A value as JSON text, its members laid out by their depth. -/
def writeJson [Surrogates] (layout : Nat → JsonLayout) (depth : Nat) : Value → String
  | .null => "null"
  | .bool b => if b then "true" else "false"
  | .int n => toString n
  | .real x => Decimal.shortest x
  | .text s => jsonText s
  | .bytes content => jsonText (quotedBytes content)
  | .stamp shown => jsonText shown
  | .list items => (layout depth).join "[" "]" (writeJsonItems layout (depth + 1) items)
  | .table entries =>
    (layout depth).join "\x7b" "\x7d" (writeJsonEntries layout (depth + 1) entries)

def writeJsonItems [Surrogates] (layout : Nat → JsonLayout) (depth : Nat) : List Value → List String
  | [] => []
  | v :: rest => writeJson layout depth v :: writeJsonItems layout depth rest

def writeJsonEntries [Surrogates] (layout : Nat → JsonLayout) (depth : Nat) :
    List (Value × Value) → List String
  | [] => []
  | (key, v) :: rest =>
    (jsonKey key ++ ": " ++ writeJson layout depth v) :: writeJsonEntries layout depth rest

end

/-- A value as JSON text on one line. -/
def jsonLine [Surrogates] (v : Value) : String := writeJson (fun _ => .line) 0 v

/-- A value as JSON text on many lines, each level indented by two blanks. -/
def jsonIndented [Surrogates] (v : Value) : String := writeJson .indented 0 v

end AllowPolicy.Value
