import BrokerClient.Idna.Direction
import BrokerClient.Idna.Joiners
import BrokerClient.Idna.Mapping
import BrokerClient.Idna.Punycode
import BrokerClient.Text.Utf8

/-!
# Internationalized Domain Names

The ASCII form of a domain name, as it is looked up: the name is mapped and
composed, split at its dots, and every label with characters outside ASCII is
written in Punycode behind `xn--`. Labels that come in that form are checked by
decoding them.

The rules are those for URLs: labels may be empty, of any length, and hyphens
may stand anywhere, but the ASCII characters that delimit the parts of a URL are
refused.

## Main definitions

* `Idna.isForbidden`: ASCII characters that no domain name holds.
* `Idna.isValidLabel`: The checks on a label in its Unicode form.
* `Idna.toAscii?`: The ASCII form of a domain name.
-/

namespace BrokerClient

namespace Idna

/-- ASCII characters that delimit parts of a URL, and controls. -/
def isForbidden (c : Char) : Bool :=
  c.toNat ≤ 0x20 || c.toNat = 0x7F ||
    c ∈ ['%', '#', '/', ':', '<', '>', '?', '@', '[', '\\', ']', '^', '|']

/-- The mark of a label in ASCII form. -/
def asciiMark : List Char := "xn--".toList

/-- The longest label that is encoded. -/
def encodeLimit : Nat := 1000

/-- The longest ASCII form that is decoded. -/
def decodeLimit : Nat := 2000

/-- Whether all characters are ASCII. -/
def isAscii (cs : List Char) : Bool := cs.all fun c => c.toNat < 0x80

/-- The checks on a label in its Unicode form: it is composed, no character
    would be mapped, it does not begin with a mark, and joiners stand where
    they matter. -/
def isValidLabel (label : List Char) : Bool :=
  Unicode.normalize label = label && (label.all fun c => fate c = .kept) &&
    !(label.head?.any isMark) && keepsJoiners label

/-- The Unicode form of a mapped label. A label marked as ASCII form must
    decode to a valid label outside ASCII. -/
def unicodeLabel? (label : List Char) : Option (List Char) :=
  if asciiMark.isPrefixOf label then
    let form := label.drop asciiMark.length
    if decodeLimit < form.length then none
    else
      match Punycode.decode? form with
      | some decoded => if isAscii decoded || !isValidLabel decoded then none else some decoded
      | none => none
  else if isAscii label || isValidLabel label then some label
  else none

/-- The ASCII form of a label in Unicode form. -/
def asciiLabel? (label : List Char) : Option (List Char) :=
  if isAscii label then some label
  else if encodeLimit < label.length then none
  else some (asciiMark ++ Punycode.encode label)

/-- The ASCII form of a domain name given by its bytes, if it has one. -/
def toAscii? (name : List UInt8) : Option (List Char) := do
  let mapped := Unicode.normalize (← map? (Utf8.decodeLenient name))
  let labels ← (splitAll '.' mapped).mapM unicodeLabel?
  if labels.any fun label => label.any isForbidden then none
  -- One label from right to left binds all labels to the rules of direction.
  else if (labels.any fun label => label.any isRightToLeft) && !labels.all keepsDirection then none
  else
    let written ← labels.mapM asciiLabel?
    some (List.intercalate ['.'] written)

end Idna

end BrokerClient
