import AllowPolicy.Value
import AllowPolicy.Decimal.Shortest
import AllowPolicy.Text.Quoted

namespace AllowPolicy.Value

/-- One byte inside a quoted run of bytes. -/
def escapeByte (quote : Char) (b : UInt8) : List Char :=
  if b.toNat < 0x80 then
    let c := Char.ofNat b.toNat
    if c.toNat < 0x7f ∧ 0x20 ≤ c.toNat ∨ c = '\t' ∨ c = '\n' ∨ c = '\r' then Text.escapeChar quote c
    else '\\' :: 'x' :: Text.hexPadded 2 b.toNat
  else '\\' :: 'x' :: Text.hexPadded 2 b.toNat

def quotedBytes (content : List UInt8) : String :=
  let quote := Text.quoteFor (content.map fun b => Char.ofNat b.toNat)
  String.ofList ('b' :: quote :: content.flatMap (escapeByte quote) ++ [quote])

mutual

/-- How a value is shown in messages: texts quoted, lists in brackets, tables in braces. -/
def literal : Value → String
  | .null => "None"
  | .bool b => if b then "True" else "False"
  | .int n => toString n
  | .real x => Decimal.shortest x
  | .text s => Text.quoted s
  | .bytes content => quotedBytes content
  | .stamp shown => shown
  | .list items => "[" ++ ", ".intercalate (itemLiterals items) ++ "]"
  | .table entries => "\x7b" ++ ", ".intercalate (entryLiterals entries) ++ "\x7d"

def itemLiterals : List Value → List String
  | [] => []
  | v :: rest => literal v :: itemLiterals rest

def entryLiterals : List (Value × Value) → List String
  | [] => []
  | (key, value) :: rest => (literal key ++ ": " ++ literal value) :: entryLiterals rest

end

end AllowPolicy.Value
