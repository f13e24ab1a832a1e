import BrokerClient.Number.Binary64

/-!
# Reading Decimal Numbers

Digits as natural numbers, and decimal texts with a point and an exponent as
floating point numbers. The nearest number is taken, a tie to the even
mantissa, for any number of digits.

## Main definitions

* `Digits.value?`: The value of a digit in a base.
* `Digits.number?`: The number that digits write.
* `Decimal`: A sign, digits and a power of ten.
* `Decimal.ofChars?`: The decimal that a text writes.
* `Decimal.toBinary64?`: The nearest floating point number.
-/

namespace BrokerClient

namespace Digits

/-- The value of a digit in a base up to 36. Letters of either case stand for
    the digits from ten on. -/
def value? (base : Nat) (c : Char) : Option Nat :=
  let value : Option Nat :=
    if c.isDigit then some (c.toNat - '0'.toNat)
    else if c.isLower then some (c.toNat - 'a'.toNat + 10)
    else if c.isUpper then some (c.toNat - 'A'.toNat + 10)
    else none
  value.filter (· < base)

/-- Whether a character is a digit in a base. -/
def isDigit (base : Nat) (c : Char) : Bool := (value? base c).isSome

/-- The number that a list of digits writes. There must be one. -/
def number? (base : Nat) (cs : List Char) : Option Nat :=
  if cs.isEmpty then none
  else cs.foldlM (fun n c => (value? base c).map fun d => n * base + d) 0

/-- The number that a list of digits writes, where characters that are no
    digits count for zero. -/
def number (base : Nat) (cs : List Char) : Nat :=
  cs.foldl (fun n c => n * base + (value? base c).getD 0) 0

end Digits

/-- The number `digits * 10 ^ exponent`, negated if `negative` holds. -/
structure Decimal where
  negative : Bool
  digits : Nat
  exponent : Int
  deriving DecidableEq, Repr

namespace Decimal

/-- A sign in front of a text, and the text behind it. -/
def readSign : List Char → Bool × List Char
  | '-' :: r => (true, r)
  | '+' :: r => (false, r)
  | s => (false, s)

/-- An exponent behind its letter. -/
def exponent? (s : List Char) : Option Int :=
  let (negative, digits) := readSign s
  (Digits.number? 10 digits).map fun n => if negative then -n else n

/-- The decimal that a whole text writes: a sign, digits with a point, and an
    exponent. The sign, the exponent, the point, and the digits on one side of
    the point may be missing. -/
def ofChars? (s : List Char) : Option Decimal := do
  let (negative, s) := readSign s
  let whole := s.takeWhile Char.isDigit
  let (fraction, s) := match s.dropWhile Char.isDigit with
    | '.' :: r => (r.takeWhile Char.isDigit, r.dropWhile Char.isDigit)
    | s => ([], s)
  let exponent ← match s with
    | [] => some 0
    | c :: r => if c = 'e' || c = 'E' then exponent? r else none
  let digits ← Digits.number? 10 (whole ++ fraction)
  some ⟨negative, digits, exponent - fraction.length⟩

/-- Decimals with a point further to the right than this are too large for
    any floating point number. -/
def pointLimit : Int := 310

/-- The nearest floating point number, unless it is too large. Decimals that
    are far outside the range of the format are told by the place of their
    point. -/
def toBinary64? (d : Decimal) : Option Binary64 :=
  let point : Int := (Nat.toDigits 10 d.digits).length + d.exponent
  let magnitude :=
    if d.digits = 0 || point < -pointLimit - 30 then some (Binary64.zero false)
    else if pointLimit < point then none
    else if 0 ≤ d.exponent then Binary64.ofRatio? (d.digits * Nat.pow 10 d.exponent.toNat) 1
    else Binary64.ofRatio? d.digits (Nat.pow 10 (-d.exponent).toNat)
  magnitude.map fun x => { x with negative := d.negative }

end Decimal

end BrokerClient
