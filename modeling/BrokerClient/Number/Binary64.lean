/-!
# Binary Floating Point

Finite numbers with a sign, a mantissa of at most 53 bits and a binary
exponent, in exact integer arithmetic. A quotient of natural numbers is rounded
to the nearest such number, a tie to the even mantissa; products and quotients
of two numbers are rounded quotients of natural numbers.

A result that is too large for the format is `none`: the formats the library
reads have no infinity.

## Main definitions

* `Binary64`: The number `± mantissa * 2 ^ exponent`.
* `Binary64.ofRatio?`: The nearest number to a quotient.
* `Binary64.mul?`, `Binary64.div?`: Rounded product and quotient.
-/

namespace BrokerClient

/-- The number `mantissa * 2 ^ exponent`, negated if `negative` holds. Numbers
    that the library builds have a mantissa of exactly 53 bits or the least
    exponent, -1074. -/
structure Binary64 where
  negative : Bool
  mantissa : Nat
  exponent : Int
  deriving DecidableEq, Repr, Inhabited

namespace Binary64

/-- The least exponent of the format. -/
def leastExponent : Int := -1074

/-- The largest exponent of the format. -/
def largestExponent : Int := 971

/-- The zero of either sign. -/
def zero (negative : Bool) : Binary64 := ⟨negative, 0, leastExponent⟩

/-- The number with the other sign. -/
def neg (x : Binary64) : Binary64 := { x with negative := !x.negative }

/-- Whether a number is one of the two zeros. -/
def isZero (x : Binary64) : Bool := x.mantissa = 0

/-- The quotient rounded to the nearest natural number, a tie to the even
    one. -/
def roundDiv (num den : Nat) : Nat :=
  let q := num / den
  let r := num % den
  if 2 * r < den then q
  else if den < 2 * r then q + 1
  else if q % 2 = 0 then q else q + 1

/-- The quotient of `num` and `den` times `2 ^ e`, as a quotient again. -/
def shiftRatio (num den : Nat) (e : Int) : Nat × Nat :=
  if 0 ≤ e then (num * Nat.pow 2 e.toNat, den) else (num, den * Nat.pow 2 (-e).toNat)

/-- The number nearest to a quotient of natural numbers, a tie going to the
    even mantissa. A divisor of zero counts as one. -/
def ofRatio? (num den : Nat) : Option Binary64 :=
  if num = 0 then some (zero false)
  else
    -- The exponent that leaves 53 bits of the quotient, or the one above it.
    let guess : Int := (num.log2 : Int) - (den.log2 : Int) - 52
    let start := if guess < leastExponent then leastExponent else guess
    let floorAt (e : Int) := let (n, d) := shiftRatio num den (-e); n / d
    let e := if floorAt start < Nat.pow 2 52 && leastExponent < start then start - 1 else start
    let (n, d) := shiftRatio num den (-e)
    let m := roundDiv n d
    -- Rounding up may reach the next power of two.
    let (m, e) := if m = Nat.pow 2 53 then (Nat.pow 2 52, e + 1) else (m, e)
    if largestExponent < e then none else some ⟨false, m, e⟩

/-- The number nearest to a natural number. -/
def ofNat? (n : Nat) : Option Binary64 := ofRatio? n 1

/-- The absolute value as a quotient of natural numbers. -/
def ratio (x : Binary64) : Nat × Nat := shiftRatio x.mantissa 1 x.exponent

/-- The product, rounded. -/
def mul? (x y : Binary64) : Option Binary64 :=
  let (a, b) := x.ratio
  let (c, d) := y.ratio
  (ofRatio? (a * c) (b * d)).map fun z => { z with negative := x.negative != y.negative }

/-- The quotient by a number that is not zero, rounded. -/
def div? (x y : Binary64) : Option Binary64 :=
  let (a, b) := x.ratio
  let (c, d) := y.ratio
  (ofRatio? (a * d) (b * c)).map fun z => { z with negative := x.negative != y.negative }

end Binary64

end BrokerClient
