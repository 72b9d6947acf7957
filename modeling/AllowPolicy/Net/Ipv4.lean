import AllowPolicy.Text.Split

namespace AllowPolicy.Ipv4

open AllowPolicy.Text

abbrev Address := BitVec 32

def number (digits : List Char) : Nat :=
  digits.foldl (fun n c => 10 * n + (c.toNat - '0'.toNat)) 0

/-- One part of a dotted quad: one to three ASCII digits without a leading zero, at most 255. -/
def readOctet? (s : List Char) : Option (BitVec 8) :=
  if s ≠ [] ∧ s.all Char.isDigit ∧ s.length ≤ 3 ∧ (s = ['0'] ∨ s.head? ≠ some '0') ∧ number s ≤ 255
  then some (BitVec.ofNat 8 (number s))
  else none

/-- An address written as four numbers with dots between them. -/
def readAddress? (s : List Char) : Option Address :=
  match (s.splitOn '.').mapM readOctet? with
  | some [a, b, c, d] => some (a ++ b ++ c ++ d)
  | _ => none

/-- An address with the number of leading bits that its network shares. -/
structure Network where
  base : Address
  bits : Nat
  bits_le : bits ≤ 32

namespace Network

/-- The first `bits` bits of both addresses agree. -/
def contains (network : Network) (address : Address) : Bool :=
  address >>> (32 - network.bits) == network.base >>> (32 - network.bits)

end Network

/-- The mask with `bits` leading ones. -/
def mask (bits : Nat) : Address := BitVec.allOnes 32 <<< (32 - bits)

/-- The number of leading ones of a mask that has no other ones. -/
def maskBits? (m : Address) : Option Nat :=
  (List.range 33).find? fun bits => mask bits = m

theorem maskBits?_le {m : Address} {bits : Nat} (h : maskBits? m = some bits) : bits ≤ 32 := by
  have := List.mem_of_find?_eq_some h
  simp at this
  omega

/-- A number of more digits than this is not read, leading zeros included. -/
def mostDigits : Nat := 4300

/-- A network length: a number up to 32, or a dotted quad that is a mask, or one whose complement
    is a mask. -/
def readBits? (s : List Char) : Option { bits : Nat // bits ≤ 32 } :=
  let digits := s.dropWhile (· = '0')
  if s ≠ [] ∧ s.all Char.isDigit then
    if h : s.length ≤ mostDigits ∧ digits.length ≤ 2 ∧ number digits ≤ 32 then
      some ⟨number digits, h.2.2⟩
    else none
  else
    match readAddress? s with
    | none => none
    | some m =>
      match h : maskBits? m with
      | some bits => some ⟨bits, maskBits?_le h⟩
      | none =>
        match h : maskBits? (~~~m) with
        | some bits => some ⟨bits, maskBits?_le h⟩
        | none => none

/-- A network: an address, alone or with a slash and a network length. -/
def readNetwork? (s : List Char) : Option Network :=
  match s.splitOn '/' with
  | [address] => (readAddress? address).map fun base => ⟨base, 32, Nat.le_refl 32⟩
  | [address, length] =>
    match readAddress? address, readBits? length with
    | some base, some ⟨bits, h⟩ => some ⟨base, bits, h⟩
    | _, _ => none
  | _ => none

/-- The address lies in the network that the pattern names; text that names none matches nothing. -/
def isMatch (pattern address : String) : Bool :=
  match readNetwork? pattern.toList, readAddress? address.toList with
  | some network, some a => network.contains a
  | _, _ => false

end AllowPolicy.Ipv4
