import BrokerClient.Url.PercentCoding
import BrokerClient.Text.Splitting

/-!
# Numeric Addresses

Host names that are addresses. An IPv4 address has one to four parts, each
decimal, octal behind a zero, or hexadecimal behind `0x`; the last part fills
the bytes that are left. An IPv6 address has eight pieces, of which one run of
zeros may be left out, and may end in an IPv4 address.

Addresses are written in one form: four decimal numbers, or hexadecimal pieces
with the longest run of at least two zeros left out.

## Main definitions

* `Url.readIpv4?`, `Url.ipv4Text`: Reading and writing IPv4 addresses.
* `Url.endsInNumber`: Whether a host name must be an IPv4 address.
* `Url.readIpv6?`, `Url.ipv6Text`: Reading and writing IPv6 addresses.
-/

namespace BrokerClient

namespace Url

/-- The number that digits of a base stand for, if all are digits of it. -/
def readDigits? (base : Nat) (cs : List Char) : Option Nat :=
  cs.foldlM (fun n c =>
    match hexValue? c with
    | some d => if d < base then some (n * base + d) else none
    | none => none) 0

/-- A part of an IPv4 address. `0x` alone is zero. -/
def readIpv4Part? (cs : List Char) : Option Nat :=
  match cs with
  | [] => none
  | ['0'] => some 0
  | '0' :: 'x' :: r => readDigits? 16 r
  | '0' :: 'X' :: r => readDigits? 16 r
  | '0' :: r => readDigits? 8 r
  | cs => readDigits? 10 cs

/-- The parts of a name without the empty one behind a final dot. -/
def significantParts (name : List Char) : List (List Char) :=
  let parts := splitAll '.' name
  if parts.getLast? = some [] then parts.dropLast else parts

/-- Whether the last part of a name is a number, so that the name must be an
    address. -/
def endsInNumber (name : List Char) : Bool :=
  match (significantParts name).getLast? with
  | none => false
  | some last => (!last.isEmpty && last.all Char.isDigit) || (readIpv4Part? last).isSome

/-- What bytes in front of the last number of an address count for, given the
    weight of the first one. -/
def frontValue : Nat → List Nat → Nat
  | _, [] => 0
  | weight, n :: rest => n * weight + frontValue (weight / 256) rest

/-- The number of an IPv4 address. -/
def readIpv4? (name : List Char) : Option Nat := do
  let parts := significantParts name
  if 4 < parts.length then none
  else
    let numbers ← parts.mapM readIpv4Part?
    let front := numbers.dropLast
    let last ← numbers.getLast?
    if Nat.pow 256 (4 - front.length) ≤ last then none
    else if front.any (255 < ·) then none
    else some (frontValue (Nat.pow 256 3) front + last)

/-- Decimal digits. -/
def decimal (n : Nat) : List Char := Nat.toDigits 10 n

/-- An IPv4 address as four decimal numbers. -/
def ipv4Text (n : Nat) : List Char :=
  let weights := [3, 2, 1, 0].map (Nat.pow 256)
  List.intercalate ['.'] (weights.map fun w => decimal (n / w % 256))

/-! ## Eight pieces -/

/-- What has been read of an IPv6 address: the pieces, and how many of them
    stood before the gap. -/
structure Pieces where
  done : List Nat
  gap : Option Nat

/-- An IPv4 address at the end of an IPv6 address, as two pieces. Its parts
    are decimal without leading zeros. -/
def readEmbedded? (cs : List Char) : Option (List Nat) := do
  let parts := splitAll '.' cs
  if parts.length ≠ 4 then none
  else
    let numbers ← parts.mapM fun part =>
      if part.isEmpty || (part.head? = some '0' && 1 < part.length) then none
      else if !part.all Char.isDigit then none
      else (readDigits? 10 part).filter (· ≤ 255)
    match numbers with
    | [a, b, c, d] => some [a * 256 + b, c * 256 + d]
    | _ => none

/-- The pieces of an address from its parts between colons. An empty part
    between two colons is the gap. The last part may be an IPv4 address. -/
def readPieces? (p : Pieces) : List (List Char) → Option Pieces
  | [] => some p
  | [] :: rest =>
    if p.gap.isSome then none else readPieces? { p with gap := some p.done.length } rest
  | part :: rest =>
    if rest.isEmpty && part.contains '.' then do
      let embedded ← readEmbedded? part
      if 6 < p.done.length then none else some { p with done := p.done ++ embedded }
    else if 4 < part.length then none
    else
      match readDigits? 16 part with
      | none => none
      | some n => readPieces? { p with done := p.done ++ [n] } rest

/-- The eight pieces of an IPv6 address. A gap stands for as many zeros as are
    missing, at least one. -/
def readIpv6? (cs : List Char) : Option (List Nat) := do
  let parts := splitAll ':' cs
  -- A gap at either end has an empty part too many beside it.
  let parts ← match parts with
    | [] :: [] :: rest => some ([] :: rest)
    | [] :: _ => none
    | parts => some parts
  let parts ← match parts.reverse with
    | [] :: [] :: rest => some (([] :: rest).reverse)
    | [] :: _ => none
    | _ => some parts
  let p ← readPieces? ⟨[], none⟩ parts
  match p.gap with
  | none => if p.done.length = 8 then some p.done else none
  | some gap =>
    if 7 < p.done.length then none
    else some (p.done.take gap ++ List.replicate (8 - p.done.length) 0 ++ p.done.drop gap)

/-- The lengths of the runs of zeros that start at each place of a list. -/
def zeroRuns : List Nat → List Nat
  | [] => []
  | n :: r =>
    let rest := zeroRuns r
    (if n = 0 then rest.headD 0 + 1 else 0) :: rest

/-- An IPv6 address with the first of its longest runs of zeros left out, if
    it has at least two. -/
def ipv6Text (pieces : List Nat) : List Char :=
  let write (ns : List Nat) : List Char :=
    List.intercalate [':'] (ns.map fun n => Nat.toDigits 16 n)
  let runs := zeroRuns pieces
  let longest := runs.foldl max 0
  if longest < 2 then write pieces
  else
    let start := runs.findIdx (· = longest)
    write (pieces.take start) ++ "::".toList ++ write (pieces.drop (start + longest))

end Url

end BrokerClient
