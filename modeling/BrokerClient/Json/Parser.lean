import BrokerClient.Json.Flaw
import BrokerClient.Json.Printer
import BrokerClient.Text.OsText

/-!
# Reading JSON

A strict reader of JSON documents from bytes. It reports the first flaw it
meets, in reading order, together with its place.

Every step takes at least one byte and says so in its result, `Taken`, which is
why the loops over items, fields and characters end. The nesting of arrays and
objects is bounded, and the readers of nested documents recurse on that bound.

Numbers follow the usual fast route: the digits are gathered in a 64-bit
significand, digits that no longer fit are counted, and the significand is then
multiplied or divided by one power of ten. For long inputs this can differ from
the nearest number in the last place.

## Main definitions

* `Json.Taken`: A value that was read, and the shorter rest.
* `Json.readString`: A string behind its opening quote.
* `Json.readNumber`: A number behind its sign.
* `Json.read`: A document nested at most so deep.
* `Json.parse`: A whole text as a document.
* `Json.parseTexts`: A whole text as the texts in the fields of an object.
-/

namespace BrokerClient

namespace Json

/-- A value read from the front of `s`, and the rest, which is shorter. -/
structure Taken (α : Type) (s : List UInt8) where
  value : α
  rest : List UInt8
  shorter : rest.length < s.length

/-- The four characters that may stand between tokens. -/
def isBlankByte (b : UInt8) : Bool := b = 0x20 || b = 0x09 || b = 0x0A || b = 0x0D

/-- The text from its first byte that is not blank. -/
def skipBlanks (s : List UInt8) : List UInt8 := s.dropWhile isBlankByte

theorem length_skipBlanks_le (s : List UInt8) : (skipBlanks s).length ≤ s.length :=
  (List.dropWhile_suffix isBlankByte).sublist.length_le

/-- A flaw behind the bytes read so far. -/
def flawBefore {α : Type} (cause : Flaw.Cause) (rest : List UInt8) : Except Flaw α :=
  .error ⟨cause, rest.length⟩

/-- A flaw that a look at the next byte revealed, if there is a next byte. -/
def flawAt {α : Type} (cause : Flaw.Cause) (rest : List UInt8) : Except Flaw α :=
  .error ⟨cause, rest.length - 1⟩

/-! ## Strings -/

/-- The value of a digit of base sixteen. -/
def hexValue? (b : UInt8) : Option Nat :=
  if 0x30 ≤ b && b ≤ 0x39 then some (b.toNat - 0x30)
  else if 0x41 ≤ b && b ≤ 0x46 then some (b.toNat - 0x41 + 10)
  else if 0x61 ≤ b && b ≤ 0x66 then some (b.toNat - 0x61 + 10)
  else none

/-- The number of four digits of base sixteen. -/
def readFourHex (s : List UInt8) : Except Flaw (Taken Nat s) :=
  match s with
  | a :: b :: c :: d :: r =>
    match hexValue? a, hexValue? b, hexValue? c, hexValue? d with
    | some a, some b, some c, some d =>
      .ok ⟨((a * 16 + b) * 16 + c) * 16 + d, r, by simp only [List.length_cons]; omega⟩
    | _, _, _, _ => flawBefore .invalidEscape r
  | _ => flawBefore .endInString []

/-- The bytes of a code point given by number. -/
def encodeNumber (n : Nat) : List UInt8 := Utf8.encodeChar (Char.ofNat n)

/-- The bytes for an escape by code unit, behind its `u`. A leading surrogate
    needs a trailing one in an escape of its own. -/
def readUnicodeEscape (s : List UInt8) : Except Flaw (Taken (List UInt8) s) := do
  let first ← readFourHex s
  if 0xDC00 ≤ first.value && first.value ≤ 0xDFFF then
    flawBefore .loneSurrogate first.rest
  else if first.value < 0xD800 || 0xDBFF < first.value then
    .ok ⟨encodeNumber first.value, first.rest, first.shorter⟩
  else
    match h : first.rest with
    | [] => flawBefore .endInString []
    | b :: r₁ =>
      if b ≠ 0x5C then flawBefore .unexpectedEndOfEscape r₁
      else
        match r₁, h with
        | [], _ => flawBefore .endInString []
        | c :: r₂, h =>
          if c ≠ 0x75 then flawBefore .unexpectedEndOfEscape r₂
          else do
            let second ← readFourHex r₂
            if second.value < 0xDC00 || 0xDFFF < second.value then
              flawBefore .loneSurrogate second.rest
            else
              let n := (first.value - 0xD800) * 0x400 + (second.value - 0xDC00) + 0x10000
              .ok ⟨encodeNumber n, second.rest, by
                have h₁ := first.shorter
                have h₂ := second.shorter
                rw [h] at h₁
                simp only [List.length_cons] at h₁
                omega⟩

/-- The bytes for an escape, behind its backslash. -/
def readEscape (s : List UInt8) : Except Flaw (Taken (List UInt8) s) :=
  match s with
  | [] => flawBefore .endInString []
  | b :: r =>
    let plain (c : UInt8) : Except Flaw (Taken (List UInt8) (b :: r)) :=
      .ok ⟨[c], r, Nat.lt_succ_self _⟩
    if b = 0x22 || b = 0x5C || b = 0x2F then plain b
    else if b = 0x62 then plain 0x08
    else if b = 0x66 then plain 0x0C
    else if b = 0x6E then plain 0x0A
    else if b = 0x72 then plain 0x0D
    else if b = 0x74 then plain 0x09
    else if b = 0x75 then do
      let t ← readUnicodeEscape r
      .ok ⟨t.value, t.rest, Nat.lt_succ_of_lt t.shorter⟩
    else flawBefore .invalidEscape r

/-- The bytes that a string stands for, up to and including its closing
    quote. -/
def readStringBytes (s : List UInt8) : Except Flaw (Taken (List UInt8) s) :=
  match s with
  | [] => flawBefore .endInString []
  | b :: r =>
    if b = 0x22 then .ok ⟨[], r, Nat.lt_succ_self _⟩
    else if b = 0x5C then do
      let e ← readEscape r
      let t ← readStringBytes e.rest
      .ok ⟨e.value ++ t.value, t.rest, by
        have := e.shorter
        have := t.shorter
        simp only [List.length_cons]
        omega⟩
    else if b < 0x20 then flawBefore .controlCharacter r
    else do
      let t ← readStringBytes r
      .ok ⟨b :: t.value, t.rest, Nat.lt_succ_of_lt t.shorter⟩
termination_by s.length
decreasing_by
  · have := e.shorter
    simp only [List.length_cons]
    omega
  · exact Nat.lt_succ_self _

/-- The text of a string, behind its opening quote. -/
def readString (s : List UInt8) : Except Flaw (Taken String s) := do
  let t ← readStringBytes s
  match Utf8.decode? t.value with
  | some cs => .ok ⟨String.ofList cs, t.rest, t.shorter⟩
  | none => flawBefore .invalidCodePoint t.rest

/-! ## Numbers -/

/-- Digits of base ten. -/
def isDigitByte (b : UInt8) : Bool := 0x30 ≤ b && b ≤ 0x39

/-- Appends digits to a number as long as it stays at or below a limit, and
    returns the digits left over. -/
def absorb (limit : Nat) : Nat → List UInt8 → Nat × List UInt8
  | n, [] => (n, [])
  | n, b :: r =>
    let next := n * 10 + (b.toNat - 0x30)
    if limit < next then (n, b :: r) else absorb limit next r

/-- The largest significand. -/
def significandLimit : Nat := Nat.pow 2 64 - 1

/-- The largest exponent that is read exactly. -/
def exponentLimit : Nat := Nat.pow 2 31 - 1

/-- Divides by `10 ^ 308` and by what remains of a negative power of ten. -/
private def divideByPowerOfTen (x : Binary64) (power : Nat) : Option Binary64 :=
  if power ≤ 308 then (Binary64.ofNat? (Nat.pow 10 power)).bind x.div?
  else if x.isZero then some x
  else
    ((Binary64.ofNat? (Nat.pow 10 308)).bind x.div?).bind fun y =>
      divideByPowerOfTen y (power - 308)
termination_by power

/-- A significand times a power of ten, unless it is too large. -/
def scale? (significand : Nat) (exponent : Int) : Option Binary64 := do
  let x ← Binary64.ofNat? significand
  if exponent < 0 then divideByPowerOfTen x (-exponent).toNat
  else if exponent ≤ 308 then x.mul? (← Binary64.ofNat? (Nat.pow 10 exponent.toNat))
  else if x.isZero then some x
  else none

/-- A floating point number from its parts, or the flaw that it is too
    large. -/
def finishFloat (negative : Bool) (significand : Nat) (exponent : Int) (rest : List UInt8) :
    Except Flaw (Number × List UInt8) :=
  match scale? significand exponent with
  | some x => .ok (.float { x with negative }, rest)
  | none => flawBefore .numberOutOfRange rest

/-- The exponent of a number, behind its letter. -/
def readExponent (negative : Bool) (significand : Nat) (start : Int) (s : List UInt8) :
    Except Flaw (Number × List UInt8) :=
  let (down, s) := match s with
    | 0x2B :: r => (false, r)
    | 0x2D :: r => (true, r)
    | s => (false, s)
  match s with
  | [] => flawBefore .endInValue []
  | b :: r =>
    if !isDigitByte b then flawBefore .invalidNumber r
    else
      let digits := s.takeWhile isDigitByte
      let rest := s.dropWhile isDigitByte
      let (exponent, excess) := absorb exponentLimit 0 digits
      if !excess.isEmpty then
        if significand ≠ 0 && !down then flawBefore .numberOutOfRange (excess ++ rest)
        else .ok (.float (Binary64.zero negative), rest)
      else
        let exponent : Int := if down then start - exponent else start + exponent
        finishFloat negative significand exponent rest

/-- What may follow the digits of a number: an exponent. -/
def readExponent? (negative : Bool) (significand : Nat) (start : Int) (s : List UInt8) :
    Except Flaw (Number × List UInt8) :=
  match s with
  | b :: r =>
    if b = 0x65 || b = 0x45 then readExponent negative significand start r
    else finishFloat negative significand start s
  | [] => finishFloat negative significand start s

/-- The fraction of a number, behind its point. -/
def readFraction (negative : Bool) (significand : Nat) (start : Int) (s : List UInt8) :
    Except Flaw (Number × List UInt8) :=
  let digits := s.takeWhile isDigitByte
  let rest := s.dropWhile isDigitByte
  if digits.isEmpty then
    match s with
    | [] => flawBefore .endInValue []
    | _ :: _ => flawAt .invalidNumber s
  else
    let (significand, excess) := absorb significandLimit significand digits
    let used := digits.length - excess.length
    readExponent? negative significand (start - used) rest

/-- The number without fraction and exponent. A negative zero and integers
    that do not fit become floating point numbers. -/
def finishInteger (negative : Bool) (significand : Nat) (rest : List UInt8) :
    Except Flaw (Number × List UInt8) :=
  if !negative then .ok (.integer significand, rest)
  else if significand = 0 || Nat.pow 2 63 < significand then finishFloat true significand 0 rest
  else .ok (.integer (-significand), rest)

/-- A number behind its sign. -/
def readNumber (negative : Bool) (s : List UInt8) : Except Flaw (Number × List UInt8) :=
  match s with
  | [] => flawBefore .endInValue []
  | b :: r =>
    if !isDigitByte b then flawBefore .invalidNumber r
    else
      let digits := s.takeWhile isDigitByte
      let rest := s.dropWhile isDigitByte
      -- No digit follows a zero.
      if b = 0x30 && 1 < digits.length then flawAt .invalidNumber r
      else
        let (significand, excess) := absorb significandLimit 0 digits
        match rest with
        | 0x2E :: r => readFraction negative significand excess.length r
        | 0x65 :: r => readExponent negative significand excess.length r
        | 0x45 :: r => readExponent negative significand excess.length r
        | rest =>
          if excess.isEmpty then finishInteger negative significand rest
          else finishFloat negative significand excess.length rest

/-! ## Documents -/

/-- Takes the bytes of a literal. -/
def readLiteral : List UInt8 → List UInt8 → Except Flaw (List UInt8)
  | [], s => .ok s
  | _ :: _, [] => flawBefore .endInValue []
  | e :: es, b :: r => if b = e then readLiteral es r else flawBefore .literalExpected r

/-- Turns a result into one that is known to be shorter than the text. All
    readers only ever drop bytes from the front, so nothing is lost. -/
def takeFrom {α : Type} (s : List UInt8) (value : α) (rest : List UInt8) :
    Except Flaw (Taken α s) :=
  if h : rest.length < s.length then .ok ⟨value, rest, h⟩ else flawBefore .valueExpected rest

/-- The items of an array after its first item, up to and including the
    closing bracket. -/
def readItems (item : (s : List UInt8) → Except Flaw (Taken Json s)) (s : List UInt8) :
    Except Flaw (Taken (List Json) s) :=
  match h : skipBlanks s with
  | [] => flawAt .endInList []
  | b :: r =>
    have hs : r.length < s.length := by
      have := length_skipBlanks_le s
      rw [h, List.length_cons] at this
      omega
    if b = 0x5D then .ok ⟨[], r, hs⟩
    else if b = 0x2C then
      match h₁ : skipBlanks r with
      | [] => flawAt .endInValue []
      | c :: r₁ =>
        if c = 0x5D then flawAt .trailingComma (c :: r₁)
        else do
          have hr : (c :: r₁).length ≤ r.length := h₁ ▸ length_skipBlanks_le r
          let first ← item (c :: r₁)
          have hf : first.rest.length < s.length := by
            have := first.shorter
            omega
          let others ← readItems item first.rest
          .ok ⟨first.value :: others.value, others.rest, Nat.lt_trans others.shorter hf⟩
    else flawAt .listCommaOrEndExpected (b :: r)
termination_by s.length

/-- An array behind its opening bracket. -/
def readArray (item : (s : List UInt8) → Except Flaw (Taken Json s)) (s : List UInt8) :
    Except Flaw (Taken Json s) :=
  match h : skipBlanks s with
  | [] => flawAt .endInList []
  | b :: r => do
    have hs : (b :: r).length ≤ s.length := h ▸ length_skipBlanks_le s
    if b = 0x5D then .ok ⟨.array [], r, Nat.lt_of_lt_of_le (Nat.lt_succ_self _) hs⟩
    else
      let first ← item (b :: r)
      let others ← readItems item first.rest
      .ok ⟨.array (first.value :: others.value), others.rest,
        Nat.lt_of_lt_of_le (Nat.lt_trans others.shorter first.shorter) hs⟩

/-- One field of an object, at the quote that opens its key. -/
def readField {α : Type} (item : (s : List UInt8) → Except Flaw (Taken α s)) (s : List UInt8) :
    Except Flaw (Taken (String × α) s) :=
  match s with
  | [] => flawAt .endInValue []
  | b :: r =>
    if b ≠ 0x22 then flawAt .keyNotString (b :: r)
    else do
      let key ← readString r
      match h : skipBlanks key.rest with
      | [] => flawAt .endInObject []
      | c :: r₁ =>
        if c ≠ 0x3A then flawAt .colonExpected (c :: r₁)
        else do
          let value ← item r₁
          .ok ⟨(key.value, value.value), value.rest, by
            have h₁ := key.shorter
            have h₂ := value.shorter
            have h₃ := length_skipBlanks_le key.rest
            rw [h] at h₃
            simp only [List.length_cons] at h₃ ⊢
            omega⟩

/-- The fields of an object after its first field, up to and including the
    closing brace. -/
def readFields {α : Type} (item : (s : List UInt8) → Except Flaw (Taken α s)) (s : List UInt8) :
    Except Flaw (Taken (List (String × α)) s) :=
  match h : skipBlanks s with
  | [] => flawAt .endInObject []
  | b :: r =>
    have hs : r.length < s.length := by
      have := length_skipBlanks_le s
      rw [h, List.length_cons] at this
      omega
    if b = 0x7D then .ok ⟨[], r, hs⟩
    else if b = 0x2C then
      match h₁ : skipBlanks r with
      | [] => flawAt .endInValue []
      | c :: r₁ =>
        if c = 0x7D then flawAt .trailingComma (c :: r₁)
        else do
          have hr : (c :: r₁).length ≤ r.length := h₁ ▸ length_skipBlanks_le r
          let first ← readField item (c :: r₁)
          have hf : first.rest.length < s.length := by
            have := first.shorter
            omega
          let others ← readFields item first.rest
          .ok ⟨first.value :: others.value, others.rest, Nat.lt_trans others.shorter hf⟩
    else flawAt .objectCommaOrEndExpected (b :: r)
termination_by s.length

/-- The fields of an object behind its opening brace, in the order in which they
    were written. A key may occur more than once. -/
def readAllFields {α : Type} (item : (s : List UInt8) → Except Flaw (Taken α s))
    (s : List UInt8) : Except Flaw (Taken (List (String × α)) s) :=
  match h : skipBlanks s with
  | [] => flawAt .endInObject []
  | b :: r => do
    have hs : (b :: r).length ≤ s.length := h ▸ length_skipBlanks_le s
    if b = 0x7D then .ok ⟨[], r, Nat.lt_of_lt_of_le (Nat.lt_succ_self _) hs⟩
    else
      let first ← readField item (b :: r)
      let others ← readFields item first.rest
      .ok ⟨first.value :: others.value, others.rest,
        Nat.lt_of_lt_of_le (Nat.lt_trans others.shorter first.shorter) hs⟩

/-- An object behind its opening brace. The last field of each key counts. -/
def readObject (item : (s : List UInt8) → Except Flaw (Taken Json s)) (s : List UInt8) :
    Except Flaw (Taken Json s) := do
  let t ← readAllFields item s
  .ok ⟨ofFields t.value, t.rest, t.shorter⟩

/-- A document at its first byte, given the reader of arrays and of objects
    inside it. -/
def readWith (array object : (s : List UInt8) → Except Flaw (Taken Json s)) (b : UInt8)
    (r : List UInt8) : Except Flaw (Taken Json (b :: r)) := do
  if b = 0x6E then takeFrom _ .null (← readLiteral [0x75, 0x6C, 0x6C] r)
  else if b = 0x74 then takeFrom _ (.bool true) (← readLiteral [0x72, 0x75, 0x65] r)
  else if b = 0x66 then takeFrom _ (.bool false) (← readLiteral [0x61, 0x6C, 0x73, 0x65] r)
  else if b = 0x2D then
    let (n, rest) ← readNumber true r
    takeFrom _ (.number n) rest
  else if isDigitByte b then
    let (n, rest) ← readNumber false (b :: r)
    takeFrom _ (.number n) rest
  else if b = 0x22 then
    let t ← readString r
    .ok ⟨.string t.value, t.rest, Nat.lt_succ_of_lt t.shorter⟩
  else if b = 0x5B then
    let t ← array r
    .ok ⟨t.value, t.rest, Nat.lt_succ_of_lt t.shorter⟩
  else if b = 0x7B then
    let t ← object r
    .ok ⟨t.value, t.rest, Nat.lt_succ_of_lt t.shorter⟩
  else flawAt .valueExpected (b :: r)

/-- A document, blanks before it skipped, in which arrays and objects are
    nested at most `depth` levels. -/
def read (depth : Nat) (s : List UInt8) : Except Flaw (Taken Json s) :=
  match h : skipBlanks s with
  | [] => flawAt .endInValue []
  | b :: r => do
    let t ← match depth with
      | 0 =>
        readWith (fun _ => flawAt .nestedTooDeep (b :: r)) (fun _ => flawAt .nestedTooDeep (b :: r))
          b r
      | depth + 1 => readWith (readArray (read depth)) (readObject (read depth)) b r
    .ok ⟨t.value, t.rest, Nat.lt_of_lt_of_le t.shorter (h ▸ length_skipBlanks_le s)⟩

/-- How many levels of arrays and objects a document may have. -/
def depthLimit : Nat := 127

/-- The document that a whole text is. -/
def parse (text : List UInt8) : Except Flaw Json := do
  let t ← read depthLimit text
  match skipBlanks t.rest with
  | [] => .ok t.value
  | r => flawAt .trailingCharacters r

/-- The document that a text is. -/
def parseString (text : String) : Except Flaw Json := parse (Utf8.encode text.toList)

/-! ## Documents of one kind -/

/-- What a number is called where something else is expected. -/
def Number.described : Number → String
  | .integer n => "integer `" ++ toString n ++ "`"
  | .float x => "floating point `" ++ floatText x ++ "`"

/-- The flaw of a document that is not of the expected kind, at its first byte.
    It is noticed behind words, numbers and strings, which are read first, and in
    front of arrays and objects. -/
def refuse {α : Type} (expected : String) (b : UInt8) (r : List UInt8) : Except Flaw α := do
  let unexpected (found : String) : List UInt8 → Except Flaw α :=
    flawBefore (.unexpected found expected)
  if b = 0x6E then unexpected "null" (← readLiteral [0x75, 0x6C, 0x6C] r)
  else if b = 0x74 then unexpected "boolean `true`" (← readLiteral [0x72, 0x75, 0x65] r)
  else if b = 0x66 then unexpected "boolean `false`" (← readLiteral [0x61, 0x6C, 0x73, 0x65] r)
  else if b = 0x2D then
    let (n, rest) ← readNumber true r
    unexpected n.described rest
  else if isDigitByte b then
    let (n, rest) ← readNumber false (b :: r)
    unexpected n.described rest
  else if b = 0x22 then
    let t ← readString r
    unexpected ("string " ++ (OsText.ofString t.value).quoted) t.rest
  else if b = 0x5B then unexpected "sequence" (b :: r)
  else if b = 0x7B then unexpected "map" (b :: r)
  else flawAt .valueExpected (b :: r)

/-- A document that must be a text, blanks before it skipped. -/
def readText (s : List UInt8) : Except Flaw (Taken String s) :=
  match h : skipBlanks s with
  | [] => flawAt .endInValue []
  | b :: r => do
    if b = 0x22 then
      let t ← readString r
      .ok ⟨t.value, t.rest, by
        have hs := length_skipBlanks_le s
        have ht := t.shorter
        rw [h, List.length_cons] at hs
        omega⟩
    else refuse "a string" b r

/-- The fields of the object of texts that a whole text must be, in the order in
    which they were written. -/
def parseTexts (text : List UInt8) : Except Flaw (List (String × String)) := do
  match skipBlanks text with
  | [] => flawAt .endInValue []
  | b :: r =>
    if b = 0x7B then
      let t ← readAllFields readText r
      match skipBlanks t.rest with
      | [] => .ok t.value
      | rest => flawAt .trailingCharacters rest
    else refuse "a map" b r

end Json

end BrokerClient
