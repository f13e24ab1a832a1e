/-!
# Flaws of JSON Texts

Why a text is not a JSON document, or not one of the kind that a reader expects,
and where the reader noticed. A flaw carries
the number of bytes that were left unread, from which its line and column
follow. A flaw that a look at the next byte revealed points behind that byte.

## Main definitions

* `Json.Flaw.Cause`: What is wrong.
* `Json.Flaw`: A cause and its place.
* `Json.Flaw.message`: The wording, with line and column.
* `Json.Flaw.Category`: Whether the text ended too early.
-/

namespace BrokerClient

namespace Json

/-- What makes a text no document, or not one of the kind that is expected. -/
inductive Flaw.Cause where
  | endInList
  | endInObject
  | endInString
  | endInValue
  | colonExpected
  | listCommaOrEndExpected
  | objectCommaOrEndExpected
  | literalExpected
  | valueExpected
  | invalidEscape
  | invalidNumber
  | numberOutOfRange
  | invalidCodePoint
  | controlCharacter
  | keyNotString
  | loneSurrogate
  | trailingComma
  | trailingCharacters
  | unexpectedEndOfEscape
  | nestedTooDeep
  | unexpected (found expected : String)
  deriving DecidableEq, Repr

/-- A cause, and the number of bytes after the place that is blamed. -/
structure Flaw where
  cause : Flaw.Cause
  left : Nat
  deriving DecidableEq, Repr

/-- The two classes of flaws: the text stops too early, or a byte is wrong. -/
inductive Flaw.Category where
  | endOfText
  | malformed
  deriving DecidableEq, Repr

namespace Flaw

/-- The wording of a cause. -/
def Cause.text : Cause → String
  | endInList => "EOF while parsing a list"
  | endInObject => "EOF while parsing an object"
  | endInString => "EOF while parsing a string"
  | endInValue => "EOF while parsing a value"
  | colonExpected => "expected `:`"
  | listCommaOrEndExpected => "expected `,` or `]`"
  | objectCommaOrEndExpected => "expected `,` or `\x7d`"
  | literalExpected => "expected ident"
  | valueExpected => "expected value"
  | invalidEscape => "invalid escape"
  | invalidNumber => "invalid number"
  | numberOutOfRange => "number out of range"
  | invalidCodePoint => "invalid unicode code point"
  | controlCharacter => "control character (\\u0000-\\u001F) found while parsing a string"
  | keyNotString => "key must be a string"
  | loneSurrogate => "lone leading surrogate in hex escape"
  | trailingComma => "trailing comma"
  | trailingCharacters => "trailing characters"
  | unexpectedEndOfEscape => "unexpected end of hex escape"
  | nestedTooDeep => "recursion limit exceeded"
  | unexpected found expected => "invalid type: " ++ found ++ ", expected " ++ expected

/-- The class of a cause. -/
def Cause.category : Cause → Category
  | endInList | endInObject | endInString | endInValue => .endOfText
  | _ => .malformed

/-- The class of a flaw. -/
def category (f : Flaw) : Category := f.cause.category

/-- The bytes up to the place that is blamed. -/
def consumed (f : Flaw) (text : List UInt8) : List UInt8 := text.take (text.length - f.left)

/-- The line of the place: one more than the line breaks before it. -/
def line (f : Flaw) (text : List UInt8) : Nat := (f.consumed text).count 0x0A + 1

/-- The number of bytes between the last line break and the place. -/
def column (f : Flaw) (text : List UInt8) : Nat :=
  ((f.consumed text).reverse.takeWhile (· ≠ 0x0A)).length

/-- The wording of a flaw of a text. -/
def message (f : Flaw) (text : List UInt8) : String :=
  f.cause.text ++ " at line " ++ toString (f.line text) ++ " column " ++
    toString (f.column text)

end Flaw

end Json

end BrokerClient
