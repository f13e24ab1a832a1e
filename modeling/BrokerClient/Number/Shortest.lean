import BrokerClient.Number.Binary64

/-!
# Shortest Decimal Digits

The shortest decimal number that rounds to a given binary number. For one
digit, two digits and so on up to seventeen, the two points of the decimal grid
around the number are tried; the first grid with a point that rounds back
wins, and of two such points the nearer.

## Main definitions

* `Binary64.shortest`: The digits and the exponent of the shortest decimal.
-/

namespace BrokerClient

namespace Binary64

/-- The least `k` with `num / den < 10 ^ k`, searched upwards from a `k` that
    is not too large. -/
private def pointFrom (num den : Nat) (k : Int) : Nat → Int
  | 0 => k
  | n + 1 =>
    let below :=
      if 0 ≤ k then num < den * Nat.pow 10 k.toNat else num * Nat.pow 10 (-k).toNat < den
    if below then k else pointFrom num den (k + 1) n

/-- The place of the decimal point: the least `k` with `num / den < 10 ^ k`.
    The binary logarithms bound it from below to within two steps. -/
private def point (num den : Nat) : Int :=
  let bits : Int := (num.log2 : Int) - (den.log2 : Int) - 1
  pointFrom num den (bits * 30103 / 100000 - 1) 5

/-- Compares `a / b` with `c / d`. -/
private def ratioLe (a b c d : Nat) : Bool := a * d ≤ c * b

/-- Whether a quotient rounds to the number: whether it lies between the two
    midpoints with the neighbours, which themselves round to the number exactly
    if its mantissa is even. -/
private def rounds (x : Binary64) (num den : Nat) : Bool :=
  -- The midpoints in quarters of a unit of the mantissa.
  let down := if x.mantissa = Nat.pow 2 52 && leastExponent < x.exponent then 1 else 2
  let (lowNum, lowDen) := shiftRatio (4 * x.mantissa - down) 4 x.exponent
  let (highNum, highDen) := shiftRatio (4 * x.mantissa + 2) 4 x.exponent
  if x.mantissa % 2 = 0 then ratioLe lowNum lowDen num den && ratioLe num den highNum highDen
  else !ratioLe num den lowNum lowDen && !ratioLe highNum highDen num den

/-- A natural number times a power of ten, as a quotient. -/
private def decimalRatio (digits : Nat) (exponent : Int) : Nat × Nat :=
  if 0 ≤ exponent then (digits * Nat.pow 10 exponent.toNat, 1)
  else (digits, Nat.pow 10 (-exponent).toNat)

/-- The point nearest to the number, of those on the grid of multiples of
    `10 ^ exponent` that round to it. -/
private def onGrid? (x : Binary64) (exponent : Int) : Option Nat :=
  let (num, den) := x.ratio
  let (n, d) :=
    if 0 ≤ exponent then (num, den * Nat.pow 10 exponent.toNat)
    else (num * Nat.pow 10 (-exponent).toNat, den)
  let below := n / d
  let nearer := if 2 * (n % d) < d || (2 * (n % d) = d && below % 2 = 0) then below else below + 1
  let farther := if nearer = below then below + 1 else below
  [nearer, farther].find? fun q =>
    let (a, b) := decimalRatio q exponent
    rounds x a b

/-- The shortest decimal `digits * 10 ^ exponent` that rounds to a number
    other than zero. Seventeen digits always suffice. -/
def shortest (x : Binary64) : Nat × Int :=
  let (num, den) := x.ratio
  let k := point num den
  let found := (List.range' 1 17).findSome? fun (count : Nat) =>
    let exponent : Int := k - count
    (onGrid? x exponent).map fun digits => (digits, exponent)
  found.getD (x.mantissa, 0)

end Binary64

end BrokerClient
