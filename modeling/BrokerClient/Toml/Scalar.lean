import BrokerClient.Json.Value
import BrokerClient.Number.Decimal
import BrokerClient.Toml.Text

/-!
# TOML Numbers, Dates and Times

The values of a TOML document that are neither texts nor hold other values.
Integers have 64 bits with a sign, and numbers with a point or an exponent are
floating point. Infinity and what is no number have no place in a JSON
document and become `null`. A date or a time is kept as it is spelled, in an
object with one field.

## Main definitions

* `Toml.readDate`, `Toml.readTime`, `Toml.readMoment`: Dates and times.
* `Toml.readNumber`: Numbers.
* `Toml.readScalar`: A value that is no text and holds no other values.
-/

namespace BrokerClient

namespace Toml

/-! ## Dates and times -/

/-- A number that is written with so many digits of base ten. -/
def readFixed (count : Nat) (s : List Char) : Option (Nat × List Char) :=
  let digits := s.take count
  if digits.length < count then none
  else (Digits.number? 10 digits).map fun n => (n, s.drop count)

/-- The text behind a character. -/
def expect (c : Char) : List Char → Option (List Char)
  | d :: r => if d = c then some r else none
  | [] => none

/-- Whether a year has a leap day. -/
def isLeapYear (year : Nat) : Bool :=
  (year % 4 = 0 && year % 100 ≠ 0) || year % 400 = 0

/-- How many days a month has. -/
def daysInMonth (year month : Nat) : Nat :=
  if month = 2 then if isLeapYear year then 29 else 28
  else if month = 4 || month = 6 || month = 9 || month = 11 then 30
  else 31

/-- The text behind a date. -/
def readDate (s : List Char) : Option (List Char) := do
  let (year, s) ← readFixed 4 s
  let (month, s) ← readFixed 2 (← expect '-' s)
  let (day, s) ← readFixed 2 (← expect '-' s)
  let isDay := 1 ≤ month && month ≤ 12 && 1 ≤ day && day ≤ daysInMonth year month
  if isDay then some s else none

/-- The text behind the digits of a fraction, if there is a fraction. -/
def skipFraction : List Char → Option (List Char)
  | '.' :: r =>
    if (r.head?.map Char.isDigit).getD false then some (r.dropWhile Char.isDigit) else none
  | s => some s

/-- The text behind hours and minutes. -/
def readHourMinute (s : List Char) : Option (List Char) := do
  let (hour, s) ← readFixed 2 s
  let (minute, s) ← readFixed 2 (← expect ':' s)
  if hour ≤ 23 && minute ≤ 59 then some s else none

/-- The text behind a time. A minute may have a leap second. -/
def readTime (s : List Char) : Option (List Char) := do
  let s ← readHourMinute s
  let (second, s) ← readFixed 2 (← expect ':' s)
  if second ≤ 60 then skipFraction s else none

/-- The text behind the offset of a time, if there is one. -/
def skipOffset : List Char → Option (List Char)
  | 'Z' :: r | 'z' :: r => some r
  | '+' :: r | '-' :: r => readHourMinute r
  | s => some s

/-- The text behind a date with a time, a date, or a time. -/
def readMoment (s : List Char) : Option (List Char) :=
  match readDate s with
  | none => readTime s
  | some behind =>
    match behind with
    | c :: r =>
      if c = 'T' || c = 't' || c = ' ' then
        match readTime r with
        | some rest => skipOffset rest
        | none => some behind
      else some behind
    | [] => some behind

/-- The key that dates and times stand under. -/
def momentKey : String := "$__toml_private_datetime"

/-! ## Numbers -/

/-- The digits behind a first one, and the rest. An underscore may stand
    between two digits. -/
def moreDigits (base : Nat) : List Char → List Char × List Char
  | '_' :: c :: r =>
    if Digits.isDigit base c then prepend c (moreDigits base r) else ([], '_' :: c :: r)
  | c :: r => if Digits.isDigit base c then prepend c (moreDigits base r) else ([], c :: r)
  | [] => ([], [])

/-- The digits in front of a text, of which there must be one, and the
    rest. -/
def readDigits (base : Nat) : List Char → Option (List Char × List Char)
  | c :: r => if Digits.isDigit base c then some (prepend c (moreDigits base r)) else none
  | [] => none

/-- The digits in front of a text, without a zero that could be left out. -/
def readWhole : List Char → Option (List Char × List Char)
  | '0' :: r => some (['0'], r)
  | s => readDigits 10 s

/-- An integer, if it fits 64 bits. -/
def integer? (negative : Bool) (n : Nat) : Option Json :=
  if n < Nat.pow 2 63 then some (.number (.integer (if negative then -n else n)))
  else if negative && n = Nat.pow 2 63 then some (.number (.integer (-(Nat.pow 2 63 : Nat))))
  else none

/-- A floating point number. One that is too large is an error if it is
    positive. -/
def float? (d : Decimal) : Option Json :=
  match d.toBinary64? with
  | some x => some (.number (.float x))
  | none => if d.negative then some .null else none

/-- An exponent behind its letter. -/
def readExponent (s : List Char) : Option (Int × List Char) := do
  let (negative, s) := Decimal.readSign s
  let (digits, s) ← readDigits 10 s
  let n := Digits.number 10 digits
  some (if negative then -n else n, s)

/-- The exponent of a number, if it has one. -/
def readExponent? : List Char → Option (Int × List Char)
  | 'e' :: r | 'E' :: r => readExponent r
  | s => some (0, s)

/-- An integer or a floating point number in base ten, behind its sign. -/
def readDecimal (negative : Bool) (s : List Char) : Option (Json × List Char) := do
  let (whole, s) ← readWhole s
  match s with
  | '.' :: r =>
    let (fraction, s) ← readDigits 10 r
    let (exponent, s) ← readExponent? s
    let digits := Digits.number 10 (whole ++ fraction)
    let value ← float? ⟨negative, digits, exponent - fraction.length⟩
    some (value, s)
  | 'e' :: r | 'E' :: r =>
    let (exponent, s) ← readExponent r
    some (← float? ⟨negative, Digits.number 10 whole, exponent⟩, s)
  | s => some (← integer? negative (Digits.number 10 whole), s)

/-- An integer in another base, behind what announces the base. -/
def readInBase (base : Nat) (s : List Char) : Option (Json × List Char) := do
  let (digits, s) ← readDigits base s
  some (← integer? false (Digits.number base digits), s)

/-- A number. Only numbers in base ten may have a sign. -/
def readNumber (s : List Char) : Option (Json × List Char) :=
  match s with
  | '0' :: 'x' :: r => readInBase 16 r
  | '0' :: 'o' :: r => readInBase 8 r
  | '0' :: 'b' :: r => readInBase 2 r
  | s =>
    match Decimal.readSign s with
    | (_, 'i' :: 'n' :: 'f' :: r) | (_, 'n' :: 'a' :: 'n' :: r) => some (.null, r)
    | (negative, r) => readDecimal negative r

/-! ## Scalars -/

/-- A value that is no text and holds no other values. -/
def readScalar (s : List Char) : Option (Json × List Char) :=
  match s with
  | 't' :: 'r' :: 'u' :: 'e' :: r => some (.bool true, r)
  | 'f' :: 'a' :: 'l' :: 's' :: 'e' :: r => some (.bool false, r)
  | s =>
    match readMoment s with
    | some rest =>
      let spelling := String.ofList (s.take (s.length - rest.length))
      some (.object [(momentKey, .string spelling)], rest)
    | none => readNumber s

end Toml

end BrokerClient
