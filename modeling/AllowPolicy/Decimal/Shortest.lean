import AllowPolicy.Decimal.Binary64

namespace AllowPolicy.Decimal

/-- The integer `e` with `10 ^ e ≤ num / den < 10 ^ (e + 1)`, for positive `num` and `den`. -/
def decimalExponent (num den : Nat) : Int :=
  let above := (Nat.toDigits 10 num).length
  let below := (Nat.toDigits 10 den).length
  let guess : Int := (above : Int) - below
  let reached (e : Int) : Bool :=
    if 0 ≤ e then den * Nat.pow 10 e.toNat ≤ num else den ≤ num * Nat.pow 10 (-e).toNat
  if reached guess then guess else guess - 1

/-- The positive numbers that round to `mantissa · 2 ^ power`, as multiples of `2 ^ (power - 2)`.
    Below a power of two the next number is half as far away. -/
def roundingInterval (mantissa : Nat) (power : Int) : Nat × Nat :=
  let close := mantissa = Nat.pow 2 52 ∧ -1074 < power
  (4 * mantissa - (if close then 1 else 2), 4 * mantissa + 2)

/-- `digits · 10 ^ exponent` reads back as `mantissa · 2 ^ power`: it lies inside the rounding
    interval, or on its border when the mantissa is even. -/
def readsBack (mantissa : Nat) (power : Int) (digits : Nat) (exponent : Int) : Bool :=
  let (low, high) := roundingInterval mantissa power
  let (tenNum, tenDen) :=
    if 0 ≤ exponent then (Nat.pow 10 exponent.toNat, 1) else (1, Nat.pow 10 (-exponent).toNat)
  let (twoNum, twoDen) := quotient 1 (power - 2)
  let value := digits * tenNum * twoDen
  let scale := tenDen * twoNum
  if mantissa % 2 = 0 then low * scale ≤ value && value ≤ high * scale
  else low * scale < value && value < high * scale

/-- The neighbours of `num / den` on the grid of multiples of `10 ^ exponent`: the one at or below,
    and whether the one above is nearer (a tie goes to the even neighbour). -/
def gridBelow (num den : Nat) (exponent : Int) : Nat × Bool :=
  let (n, d) :=
    if 0 ≤ exponent then (num, den * Nat.pow 10 exponent.toNat)
    else (num * Nat.pow 10 (-exponent).toNat, den)
  let below := n / d
  let rest := n % d
  (below, d < 2 * rest || (2 * rest = d && below % 2 = 1))

/-- The first grid, from coarse to fine, on which a neighbour of the number reads back, with that
    neighbour; of two the nearer. -/
def shortestOn (mantissa : Nat) (power : Int) (num den : Nat) (top : Int) : List Nat → Nat × Int
  | [] => (0, 0)
  | count :: more =>
    let exponent := top - count
    let (below, upNearer) := gridBelow num den exponent
    let downOk := readsBack mantissa power below exponent
    let upOk := readsBack mantissa power (below + 1) exponent
    if downOk && upOk then (if upNearer then below + 1 else below, exponent)
    else if downOk then (below, exponent)
    else if upOk then (below + 1, exponent)
    else shortestOn mantissa power num den top more

/-- `digits` without its trailing zeros, each counted into the exponent. -/
def stripZeros : List Char → Int → List Char × Int
  | [], e => ([], e)
  | c :: r, e => if c = '0' then stripZeros r (e + 1) else ((c :: r).reverse, e)

/-- The fewest significant digits that read back as the number, and the exponent of the last. -/
def shortestDigits (mantissa : Nat) (power : Int) : List Char × Int :=
  let (num, den) := quotient mantissa power
  let top := decimalExponent num den + 1
  let (digits, exponent) := shortestOn mantissa power num den top ((List.range 17).map (· + 1))
  stripZeros (Nat.toDigits 10 digits).reverse exponent

/-- A positional decimal with digits on both sides of the point. -/
def positional (digits : List Char) (exponent : Int) : List Char :=
  let point := digits.length + exponent
  if point ≤ 0 then ['0', '.'] ++ List.replicate (-point).toNat '0' ++ digits
  else if 0 ≤ exponent then digits ++ List.replicate exponent.toNat '0' ++ ['.', '0']
  else digits.take point.toNat ++ ['.'] ++ digits.drop point.toNat

/-- Scientific notation: one digit before the point, a signed exponent of at least two digits. -/
def scientific (digits : List Char) (exponent : Int) : List Char :=
  let e := digits.length + exponent - 1
  let power := Nat.toDigits 10 e.natAbs
  let mantissa := match digits with
    | d :: r@(_ :: _) => d :: '.' :: r
    | short => short
  mantissa ++ ['e', if e < 0 then '-' else '+'] ++ List.replicate (2 - power.length) '0' ++ power

/-- The text of a number: the fewest digits that read back, positional from `10 ^ -4` to below
    `10 ^ 16` and scientific elsewhere, always with a mark that it is no integer. -/
def shortest (x : Float) : String :=
  match partsOf x with
  | .nan => "nan"
  | .infinite negative => if negative then "-inf" else "inf"
  | .finite negative mantissa power =>
    let body :=
      if mantissa = 0 then ['0', '.', '0']
      else
        let (digits, exponent) := shortestDigits mantissa power
        let lead := digits.length + exponent
        if -4 < lead ∧ lead ≤ 16 then positional digits exponent else scientific digits exponent
    String.ofList (if negative then '-' :: body else body)

end AllowPolicy.Decimal
