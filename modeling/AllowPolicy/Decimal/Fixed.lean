import AllowPolicy.Decimal.Binary64

namespace AllowPolicy.Decimal

/-- `num / den` rounded to the nearest integer, halves to even. -/
def roundHalfEven (num den : Nat) : Nat :=
  let below := num / den
  let rest := num % den
  if den < 2 * rest ∨ (2 * rest = den ∧ below % 2 = 1) then below + 1 else below

/-- A number with exactly `places` digits after the point, the exact value rounded half to even. -/
def fixed (places : Nat) (x : Float) : String :=
  match partsOf x with
  | .nan => "nan"
  | .infinite negative => if negative then "-inf" else "inf"
  | .finite negative mantissa power =>
    let (num, den) := quotient mantissa power
    let scaled := roundHalfEven (num * Nat.pow 10 places) den
    let digits := Nat.toDigits 10 scaled
    let padded := List.replicate (places + 1 - digits.length) '0' ++ digits
    let whole := padded.take (padded.length - places)
    let part := padded.drop (padded.length - places)
    let body := if places = 0 then whole else whole ++ '.' :: part
    String.ofList (if negative then '-' :: body else body)

end AllowPolicy.Decimal
