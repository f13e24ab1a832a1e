import BrokerClient.Text.Utf8

/-!
# Percent Encoding

Characters that a part of a URL cannot hold are written as their bytes, each a
percent sign and two digits. Which characters these are depends on the part;
controls and everything outside ASCII are always among them. A percent sign is
never encoded, so what is encoded already stays as it is.

## Main definitions

* `Url.percentEncode`: Encodes the characters of a set.
* `Url.percentDecode`: The bytes that an encoded text stands for.
* `Url.inOpaquePath`, `Url.inFragment`, `Url.inQuery`, `Url.inSpecialQuery`, `Url.inPath`,
  `Url.inUserInfo`: The sets by part.
-/

namespace BrokerClient

namespace Url

/-- A digit of base sixteen in upper case. -/
def hexDigit (n : Nat) : Char := (Nat.digitChar n).toUpper

/-- A byte as a percent sign and two digits. -/
def encodeByte (b : UInt8) : List Char :=
  ['%', hexDigit (b.toNat / 16), hexDigit (b.toNat % 16)]

/-- Controls and everything outside ASCII. -/
def isControl (c : Char) : Bool := c.toNat < 0x20 || 0x7F ≤ c.toNat

/-- Encoded in a path without segments. -/
def inOpaquePath (c : Char) : Bool := isControl c

/-- Encoded in a fragment. -/
def inFragment (c : Char) : Bool := isControl c || c ∈ [' ', '"', '<', '>', '\x60']

/-- Encoded in a query. -/
def inQuery (c : Char) : Bool := isControl c || c ∈ [' ', '"', '#', '<', '>']

/-- Encoded in a query of the schemes for the web. -/
def inSpecialQuery (c : Char) : Bool := inQuery c || c = '\''

/-- Encoded in a path. -/
def inPath (c : Char) : Bool := inFragment c || c ∈ ['#', '?', '\x7b', '\x7d']

/-- Encoded in a user name or password. -/
def inUserInfo (c : Char) : Bool :=
  inPath c || c ∈ ['/', ':', ';', '=', '@', '[', '\\', ']', '^', '|']

/-- The text with the characters of a set encoded. -/
def percentEncode (inSet : Char → Bool) (cs : List Char) : List Char :=
  cs.flatMap fun c => if inSet c then (Utf8.encodeChar c).flatMap encodeByte else [c]

/-- The value of a digit of base sixteen. -/
def hexValue? (c : Char) : Option Nat :=
  if c.isDigit then some (c.toNat - '0'.toNat)
  else if 'a' ≤ c && c ≤ 'f' then some (c.toNat - 'a'.toNat + 10)
  else if 'A' ≤ c && c ≤ 'F' then some (c.toNat - 'A'.toNat + 10)
  else none

/-- The bytes that a text stands for. A percent sign without two digits behind
    it stands for itself. -/
def percentDecode : List Char → List UInt8
  | '%' :: a :: b :: r =>
    match hexValue? a, hexValue? b with
    | some x, some y => UInt8.ofNat (x * 16 + y) :: percentDecode r
    | _, _ => 0x25 :: percentDecode (a :: b :: r)
  | c :: r => Utf8.encodeChar c ++ percentDecode r
  | [] => []

end Url

end BrokerClient
