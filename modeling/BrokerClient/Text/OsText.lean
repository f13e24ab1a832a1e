import BrokerClient.Text.Utf8
import BrokerClient.Unicode.Visible

/-!
# Operating System Text

Arguments, environment values and file names are byte strings. Most of them
are UTF-8 and are treated as text, but nothing promises it, so the library
carries the bytes and asks for the text where it needs one.

## Main definitions

* `OsText`: A byte string from the operating system.
* `OsText.text?`: Its text, if it is well encoded.
* `OsText.shown`: Its text with replacement characters, for messages.
* `OsText.quoted`: Its text between double quotes, with escapes for everything
  that could not be read back.
-/

namespace BrokerClient

/-- A byte string that the operating system treats as text. -/
structure OsText where
  bytes : List UInt8
  deriving DecidableEq, Inhabited, Repr

namespace OsText

/-- The encoding of a list of characters. -/
def ofChars (cs : List Char) : OsText := ⟨Utf8.encode cs⟩

/-- The encoding of a text. -/
def ofString (s : String) : OsText := ofChars s.toList

instance : Coe String OsText := ⟨ofString⟩

/-- The byte string of no bytes. -/
def empty : OsText := ⟨[]⟩

/-- Whether there are no bytes. -/
def isEmpty (t : OsText) : Bool := t.bytes.isEmpty

/-- One byte string after the other. -/
def append (s t : OsText) : OsText := ⟨s.bytes ++ t.bytes⟩

instance : Append OsText := ⟨append⟩

@[simp] theorem bytes_append (s t : OsText) : (s ++ t).bytes = s.bytes ++ t.bytes := rfl

/-- The characters, if the bytes are well encoded. -/
def chars? (t : OsText) : Option (List Char) := Utf8.decode? t.bytes

/-- The text, if the bytes are well encoded. -/
def text? (t : OsText) : Option String := t.chars?.map String.ofList

/-- The characters, with a replacement character for each broken piece. -/
def shownChars (t : OsText) : List Char := Utf8.decodeLenient t.bytes

/-- The text, with a replacement character for each broken piece. -/
def shown (t : OsText) : String := String.ofList t.shownChars

/-- Whether a NUL is among the bytes. No argument, variable or file name of a
    process can hold one. -/
def hasNul (t : OsText) : Bool := t.bytes.contains 0

/-- Two digits for a byte, in base sixteen. -/
private def byteDigits (b : UInt8) : List Char :=
  let digit (n : Nat) : Char := (Nat.digitChar n).toUpper
  [digit (b.toNat / 16), digit (b.toNat % 16)]

/-- A character as it stands between quotes. -/
def quoteChar (c : Char) : List Char :=
  if c = '\x00' then ['\\', '0']
  else if c = '\t' then ['\\', 't']
  else if c = '\r' then ['\\', 'r']
  else if c = '\n' then ['\\', 'n']
  else if c = '"' || c = '\'' || c = '\\' then ['\\', c]
  else if Unicode.isVisible c then [c]
  else "\\u\x7b".toList ++ Nat.toDigits 16 c.toNat ++ ['\x7d']

/-- A piece as it stands between quotes: broken bytes are spelled one by
    one. -/
def quotePiece : Utf8.Piece → List Char
  | .char c => quoteChar c
  | .broken bytes => bytes.flatMap fun b => '\\' :: 'x' :: byteDigits b

/-- The text between double quotes. -/
def quoted (t : OsText) : String :=
  String.ofList ('"' :: (Utf8.pieces t.bytes).flatMap quotePiece ++ ['"'])

end OsText

end BrokerClient
