/-!
# UTF-8

A byte string is read as a sequence of *pieces*: characters that are encoded
well, and maximal runs of bytes that begin a character and do not finish it.
Every reader of bytes in the library is a view of that one sequence. The
strict view wants characters only, the lenient one puts the replacement
character where a piece is broken, and the quoted one spells broken bytes out.

The encoder works on code points with division and remainder, and the decoder
undoes it with multiplication and addition, so that both can be related by
linear arithmetic.

## Main definitions

* `Utf8.encodeChar`, `Utf8.encode`: The bytes of a character and of a text.
* `Utf8.Piece`: A character or a broken run of bytes.
* `Utf8.pieces`: The pieces of a byte string, in order.
* `Utf8.decode?`: The strict view.
* `Utf8.decodeLenient`: The view with replacement characters.
-/

namespace BrokerClient

namespace Utf8

/-- The bytes of one character, between one and four of them. -/
def encodeChar (c : Char) : List UInt8 :=
  let n := c.toNat
  if n < 0x80 then [UInt8.ofNat n]
  else if n < 0x800 then [UInt8.ofNat (0xC0 + n / 0x40), UInt8.ofNat (0x80 + n % 0x40)]
  else if n < 0x10000 then
    [UInt8.ofNat (0xE0 + n / 0x1000), UInt8.ofNat (0x80 + n / 0x40 % 0x40),
      UInt8.ofNat (0x80 + n % 0x40)]
  else
    [UInt8.ofNat (0xF0 + n / 0x40000), UInt8.ofNat (0x80 + n / 0x1000 % 0x40),
      UInt8.ofNat (0x80 + n / 0x40 % 0x40), UInt8.ofNat (0x80 + n % 0x40)]

/-- The bytes of a text. -/
def encode (cs : List Char) : List UInt8 :=
  cs.flatMap encodeChar

/-- A well encoded character, or a maximal run of bytes that starts like one
    and breaks off. -/
inductive Piece where
  | char (c : Char)
  | broken (bytes : List UInt8)
  deriving DecidableEq, Repr

/-- The value that a byte carries after the first byte of a character. -/
def tail (b : UInt8) : Nat := b.toNat - 0x80

/-- Bytes that may stand after the first byte of a character. -/
def isContinuation (b : UInt8) : Bool := 0x80 ≤ b && b ≤ 0xBF

/-- Bytes that may stand second in a character of three bytes. The bounds
    keep out spellings that are longer than needed and the surrogates. -/
def isSecondOfThree (first second : UInt8) : Bool :=
  if first = 0xE0 then 0xA0 ≤ second && second ≤ 0xBF
  else if first = 0xED then 0x80 ≤ second && second ≤ 0x9F
  else isContinuation second

/-- Bytes that may stand second in a character of four bytes. The bounds keep
    out spellings that are longer than needed and values past the last code
    point. -/
def isSecondOfFour (first second : UInt8) : Bool :=
  if first = 0xF0 then 0x90 ≤ second && second ≤ 0xBF
  else if first = 0xF4 then 0x80 ≤ second && second ≤ 0x8F
  else isContinuation second

/-- The pieces of a byte string, in order. -/
def pieces : List UInt8 → List Piece
  | [] => []
  | a :: r =>
    if a < 0x80 then .char (Char.ofNat a.toNat) :: pieces r
    else if 0xC2 ≤ a && a ≤ 0xDF then
      match r with
      | b :: r₁ =>
        if isContinuation b then
          .char (Char.ofNat ((a.toNat - 0xC0) * 0x40 + tail b)) :: pieces r₁
        else .broken [a] :: pieces (b :: r₁)
      | [] => [.broken [a]]
    else if 0xE0 ≤ a && a ≤ 0xEF then
      match r with
      | b :: r₁ =>
        if isSecondOfThree a b then
          match r₁ with
          | c :: r₂ =>
            if isContinuation c then
              .char (Char.ofNat ((a.toNat - 0xE0) * 0x1000 + tail b * 0x40 + tail c)) ::
                pieces r₂
            else .broken [a, b] :: pieces (c :: r₂)
          | [] => [.broken [a, b]]
        else .broken [a] :: pieces (b :: r₁)
      | [] => [.broken [a]]
    else if 0xF0 ≤ a && a ≤ 0xF4 then
      match r with
      | b :: r₁ =>
        if isSecondOfFour a b then
          match r₁ with
          | c :: r₂ =>
            if isContinuation c then
              match r₂ with
              | d :: r₃ =>
                if isContinuation d then
                  .char (Char.ofNat ((a.toNat - 0xF0) * 0x40000 + tail b * 0x1000 +
                    tail c * 0x40 + tail d)) :: pieces r₃
                else .broken [a, b, c] :: pieces (d :: r₃)
              | [] => [.broken [a, b, c]]
            else .broken [a, b] :: pieces (c :: r₂)
          | [] => [.broken [a, b]]
        else .broken [a] :: pieces (b :: r₁)
      | [] => [.broken [a]]
    else .broken [a] :: pieces r

/-- The bytes of a piece. -/
def Piece.bytes : Piece → List UInt8
  | .char c => encodeChar c
  | .broken bytes => bytes

/-- The character of a piece, if it is one. -/
def Piece.char? : Piece → Option Char
  | .char c => some c
  | .broken _ => none

/-- The character shown for a piece: itself, or the replacement character. -/
def Piece.shown : Piece → Char
  | .char c => c
  | .broken _ => '\uFFFD'

/-- The text of a byte string that is well encoded throughout. -/
def decode? (bytes : List UInt8) : Option (List Char) :=
  (pieces bytes).mapM Piece.char?

/-- The text of a byte string, with one replacement character for each broken
    piece. -/
def decodeLenient (bytes : List UInt8) : List Char :=
  (pieces bytes).map Piece.shown

end Utf8

end BrokerClient
