import AllowPolicy.Decimal.Shortest

namespace AllowPolicy.Decimal

/-- The number of digits of a stored number. -/
def significantDigits : Nat := 15

/-- `num / den` to so many digits, halves up: the digits without the zeros at their end, and the
    exponent of the last. -/
def roundedDigits (count num den : Nat) : List Char × Int :=
  let exponent := decimalExponent num den - (count - 1)
  let (n, d) :=
    if 0 ≤ exponent then (num, den * Nat.pow 10 exponent.toNat)
    else (num * Nat.pow 10 (-exponent).toNat, den)
  stripZeros (Nat.toDigits 10 ((2 * n + d) / (2 * d))).reverse exponent

/-- The text of a stored number: fifteen digits, positional from `10 ^ -4` to below `10 ^ 15` and
    scientific elsewhere, always with a point. What is not a number has no text. -/
def significant? (x : Float) : Option String :=
  match partsOf x with
  | .nan => none
  | .infinite negative => some (if negative then "-Inf" else "Inf")
  | .finite negative mantissa power =>
    if mantissa = 0 then some "0.0"
    else
      let (num, den) := quotient mantissa power
      let (digits, exponent) := roundedDigits significantDigits num den
      let lead := digits.length + exponent
      let body :=
        if -4 < lead ∧ lead ≤ significantDigits then positional digits exponent
        else if digits.length = 1 then scientific (digits ++ ['0']) (exponent - 1)
        else scientific digits exponent
      some (String.ofList (if negative then '-' :: body else body))

end AllowPolicy.Decimal
