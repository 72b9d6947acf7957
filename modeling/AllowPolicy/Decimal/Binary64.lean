namespace AllowPolicy.Decimal

/-- A binary64 number taken apart: not a number, an infinity, or plus or minus `mantissa · 2 ^
    power` with `mantissa` below `2 ^ 53`. -/
inductive Parts where
  | nan
  | infinite (negative : Bool)
  | finite (negative : Bool) (mantissa : Nat) (power : Int)
  deriving DecidableEq, Repr

/-- The parts of a number, read off its bits. -/
def partsOf (x : Float) : Parts :=
  let bits : Nat := x.toBits.toNat
  let negative := bits / Nat.pow 2 63 = 1
  let biased : Nat := bits / Nat.pow 2 52 % Nat.pow 2 11
  let fraction : Nat := bits % Nat.pow 2 52
  if biased = 2047 then
    if fraction = 0 then .infinite negative else .nan
  else if biased = 0 then .finite negative fraction (-1074)
  else .finite negative (Nat.pow 2 52 + fraction) ((biased : Int) - 1075)

/-- `mantissa · 2 ^ power` as a quotient of natural numbers. -/
def quotient (mantissa : Nat) (power : Int) : Nat × Nat :=
  if 0 ≤ power then (mantissa * Nat.pow 2 power.toNat, 1) else (mantissa, Nat.pow 2 (-power).toNat)

/-- The number has no fractional part, and this is its value. -/
def integral? (x : Float) : Option Int :=
  match partsOf x with
  | .finite negative mantissa power =>
    let (num, den) := quotient mantissa power
    if num % den = 0 then some (if negative then -(num / den : Nat) else (num / den : Nat))
    else none
  | _ => none

/-- The nearest binary64 number, halves to even; none where it would be infinite. -/
def ofInt? (n : Int) : Option Float :=
  let x := Float.ofInt n
  if x.isInf then none else some x

end AllowPolicy.Decimal
