import BrokerClient.Json.Parser

/-!
# Reading JSON Records

A record has a few fields, known by name, and may be written as an object or as
an array that lists the fields in their order. A reader of records looks only
at the fields it knows. The values of other fields are skipped: their brackets,
strings and numbers must be well formed, but how deep they are nested, how large
their numbers are, and whether their escapes make sense is not looked at.

In an object no known field may occur twice. In an array the last fields may be
missing, and nothing may follow them.

## Main definitions

* `Json.skipValue`: The text behind a value that nobody reads.
* `Json.Record`: The values of known fields.
* `Json.readRecord?`: A whole text as a record.
-/

namespace BrokerClient

namespace Json

/-! ## Skipping -/

/-- The text behind a string, given the text behind its opening quote. -/
def skipString : List UInt8 → Option (List UInt8)
  | [] => none
  | b :: r =>
    if b = 0x22 then some r
    else if b < 0x20 then none
    else if b = 0x5C then
      match r with
      | 0x75 :: a :: b :: c :: d :: r =>
        if [a, b, c, d].all fun x => (hexValue? x).isSome then skipString r else none
      | c :: r => if "\"\\/bfnrt".toList.any fun e => e.toNat = c.toNat then skipString r else none
      | [] => none
    else skipString r

/-- The text behind digits, of which there must be one. -/
def skipDigits (s : List UInt8) : Option (List UInt8) :=
  if (s.head?.map isDigitByte).getD false then some (s.dropWhile isDigitByte) else none

/-- The text behind the exponent of a number, if there is one. -/
def skipExponent (s : List UInt8) : Option (List UInt8) :=
  match s with
  | b :: r =>
    if b = 0x65 || b = 0x45 then
      match r with
      | 0x2B :: r => skipDigits r
      | 0x2D :: r => skipDigits r
      | r => skipDigits r
    else some s
  | [] => some []

/-- The text behind a number, given the text behind its sign. -/
def skipNumber (s : List UInt8) : Option (List UInt8) := do
  let r ← skipDigits s
  if s.head? = some 0x30 && r ≠ s.drop 1 then none
  else
    match r with
    | 0x2E :: r => skipExponent (← skipDigits r)
    | r => skipExponent r

/-- The text behind a literal. -/
def skipLiteral (literal : List UInt8) (s : List UInt8) : Option (List UInt8) :=
  if literal.isPrefixOf s then some (s.drop literal.length) else none

/-- The text behind a value that is no array and no object. -/
def skipScalar (s : List UInt8) : Option (List UInt8) :=
  match s with
  | 0x22 :: r => skipString r
  | 0x2D :: r => skipNumber r
  | 0x6E :: r => skipLiteral [0x75, 0x6C, 0x6C] r
  | 0x74 :: r => skipLiteral [0x72, 0x75, 0x65] r
  | 0x66 :: r => skipLiteral [0x61, 0x6C, 0x73, 0x65] r
  | s => skipNumber s

/-- The text behind a key and its colon. -/
def skipKey (s : List UInt8) : Option (List UInt8) :=
  match skipBlanks s with
  | 0x22 :: r => do
    match skipBlanks (← skipString r) with
    | 0x3A :: r => some r
    | _ => none
  | _ => none

/-- The two kinds of brackets that can be open around a value. -/
inductive Bracket where
  | array
  | object
  deriving DecidableEq, Repr

/-- Where the reader stands inside the brackets that are open, the innermost
    first: before a value, or behind one. -/
inductive SkipState where
  | before (open_ : List Bracket)
  | behind (open_ : List Bracket)

/-- One step of skipping: a value or an opening bracket, a comma, or a closing
    bracket. The text that is left is the result when no bracket is open
    behind a value. -/
def skipStep : SkipState → List UInt8 → Option (SkipState × List UInt8)
  | .before stack, s =>
    match skipBlanks s with
    | 0x5B :: r =>
      match skipBlanks r with
      | 0x5D :: r => some (.behind stack, r)
      | r => some (.before (.array :: stack), r)
    | 0x7B :: r =>
      match skipBlanks r with
      | 0x7D :: r => some (.behind stack, r)
      | r => (skipKey r).map fun r => (.before (.object :: stack), r)
    | s => (skipScalar s).map fun r => (.behind stack, r)
  | .behind [], _ => none
  | .behind (b :: stack), s =>
    match skipBlanks s, b with
    | 0x2C :: r, .array => some (.before (.array :: stack), r)
    | 0x2C :: r, .object => (skipKey r).map fun r => (.before (.object :: stack), r)
    | 0x5D :: r, .array => some (.behind stack, r)
    | 0x7D :: r, .object => some (.behind stack, r)
    | _, _ => none

/-- Takes steps until no bracket is open behind a value. Every step takes at
    least one byte, so the check that the rest is shorter refuses nothing. -/
def skipFrom (state : SkipState) (s : List UInt8) : Option (List UInt8) :=
  match state with
  | .behind [] => some s
  | state =>
    match skipStep state s with
    | none => none
    | some (next, rest) => if rest.length < s.length then skipFrom next rest else none
termination_by s.length

/-- The text behind a value, blanks before it included. -/
def skipValue (s : List UInt8) : Option (List UInt8) := skipFrom (.before []) s

/-! ## Records -/

/-- The values of the known fields of a record, in the order of the names, as
    far as they were given. -/
abbrev Record := List (Option Json)

/-- How deep the value of a known field may be nested. -/
def fieldDepthLimit : Nat := depthLimit - 1

/-- The record with the value of a field, unless it has one already. -/
def Record.give? (r : Record) (field : Nat) (value : Json) : Option Record :=
  match r[field]? with
  | some none => some (r.set field (some value))
  | _ => none

/-- Reads a field at the quote that opens its key into a record, and returns the
    text behind it. -/
def readRecordField (names : List String) (r : Record) (s : List UInt8) :
    Option (Record × List UInt8) := do
  match s with
  | 0x22 :: s =>
    let key ← (readString s).toOption
    match skipBlanks key.rest with
    | 0x3A :: s =>
      match names.idxOf? key.value with
      | some field =>
        let value ← (read fieldDepthLimit s).toOption
        some (← r.give? field value.value, value.rest)
      | none => some (r, ← skipValue s)
    | _ => none
  | _ => none

/-- Reads further fields up to the closing brace into a record. A field takes
    at least one byte. -/
def readRecordFields (names : List String) (r : Record) (s : List UInt8) :
    Option (Record × List UInt8) :=
  match readRecordField names r (skipBlanks s) with
  | none => none
  | some (r, rest) =>
    match skipBlanks rest with
    | 0x7D :: behind => some (r, behind)
    | 0x2C :: next => if next.length < s.length then readRecordFields names r next else none
    | _ => none
termination_by s.length

/-- Reads the items of an array up to the closing bracket into the fields of a
    record in their order. -/
def readRecordItems (r : Record) : List Nat → List UInt8 → Option (Record × List UInt8)
  | [], _ => none
  | field :: fields, s => do
    let value ← (read fieldDepthLimit s).toOption
    let r ← r.give? field value.value
    match skipBlanks value.rest with
    | 0x5D :: behind => some (r, behind)
    | 0x2C :: next => readRecordItems r fields next
    | _ => none

/-- The record that a whole text is, given the names of the known fields. -/
def readRecord? (names : List String) (text : List UInt8) : Option Record := do
  let blank : Record := names.map fun _ => none
  let (r, rest) ←
    match skipBlanks text with
    | 0x7B :: s =>
      match skipBlanks s with
      | 0x7D :: behind => some (blank, behind)
      | s => readRecordFields names blank s
    | 0x5B :: s =>
      match skipBlanks s with
      | 0x5D :: behind => some (blank, behind)
      | s => readRecordItems blank (List.range names.length) s
    | _ => none
  if (skipBlanks rest).isEmpty then some r else none

end Json

end BrokerClient
