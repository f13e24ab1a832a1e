import BrokerClient.Json.Value
import BrokerClient.Number.Shortest

/-!
# Writing JSON

The compact text of a document, and the text of its scalars. Floating point
numbers are written with the fewest digits that read back: positional between
`1e-5` and `1e16`, with at least one digit behind the point, and scientific
with an explicit sign of the exponent elsewhere.

## Main definitions

* `Json.escapeChar`: A character inside a string.
* `Json.quote`: A string with its quotes.
* `Json.Number.text`: A number.
* `Json.compact`: A document without blanks.
* `Json.indented`: An object of strings, one field a line.

## Theorems

* `Json.isNumberChar_of_mem_text`: The characters that numbers are written with.
-/

namespace BrokerClient

namespace Json

/-- A character inside a string: the quote, the backslash and the controls are
    escaped. -/
def escapeChar (c : Char) : List Char :=
  if c = '"' || c = '\\' then ['\\', c]
  else if c = '\x08' then ['\\', 'b']
  else if c = '\t' then ['\\', 't']
  else if c = '\n' then ['\\', 'n']
  else if c = '\x0c' then ['\\', 'f']
  else if c = '\r' then ['\\', 'r']
  else if c.toNat < 0x20 then
    ['\\', 'u', '0', '0', Nat.digitChar (c.toNat / 16), Nat.digitChar (c.toNat % 16)]
  else [c]

/-- A string between its quotes. -/
def quoteChars (cs : List Char) : List Char := '"' :: cs.flatMap escapeChar ++ ['"']

/-- A string between its quotes. -/
def quote (s : String) : String := String.ofList (quoteChars s.toList)

/-- The digits of the shortest decimal without trailing zeros, and its
    exponent. -/
private def significant (digits : Nat) (exponent : Int) : List Char × Int :=
  let written := Nat.toDigits 10 digits
  let kept := (written.reverse.dropWhile (· = '0')).reverse
  (kept, exponent + (written.length - kept.length))

/-- Digits of a positive number written with a point, given the place of the
    point counted from the first digit. -/
private def positional (digits : List Char) (point : Int) : List Char :=
  if point ≤ 0 then "0.".toList ++ List.replicate (-point).toNat '0' ++ digits
  else
    let p := point.toNat
    if digits.length ≤ p then digits ++ List.replicate (p - digits.length) '0' ++ ".0".toList
    else digits.take p ++ '.' :: digits.drop p

/-- Digits of a positive number with one digit before the point and an
    exponent. -/
private def scientific (digits : List Char) (point : Int) : List Char :=
  let exponent := point - 1
  let mantissa := match digits with
    | d :: [] => [d]
    | d :: r => d :: '.' :: r
    | [] => ['0']
  let sign := if exponent < 0 then '-' else '+'
  mantissa ++ 'e' :: sign :: Nat.toDigits 10 exponent.natAbs

/-- The text of a floating point number. -/
def floatText (x : Binary64) : String :=
  let sign := if x.negative then ['-'] else []
  let body :=
    if x.isZero then "0.0".toList
    else
      let (digits, exponent) := significant x.shortest.1 x.shortest.2
      let point := exponent + digits.length
      if -5 < point && point ≤ 16 then positional digits point else scientific digits point
  String.ofList (sign ++ body)

/-- The text of a number. -/
def Number.text : Number → String
  | .integer n => toString n
  | .float x => floatText x

/-! ## Characters of numbers -/

/-- The characters that numbers are written with. -/
def isNumberChar (c : Char) : Bool := c.isDigit || c ∈ ['-', '+', '.', 'e']

theorem isNumberChar_of_isDigit {c : Char} (h : c.isDigit = true) : isNumberChar c = true := by
  unfold isNumberChar
  rw [h, Bool.true_or]

theorem isDigit_of_mem_toString (n : Nat) : ∀ c ∈ (toString n).toList, c.isDigit = true := by
  rw [Nat.toString_eq_ofList_toDigits, String.toList_ofList]
  exact fun c hc => Nat.isDigit_of_mem_toDigits (by decide) (by decide) hc

private theorem isNumberChar_of_mem_toDigits {n : Nat} :
    ∀ c ∈ Nat.toDigits 10 n, isNumberChar c = true := fun _ hc =>
  isNumberChar_of_isDigit (Nat.isDigit_of_mem_toDigits (by decide) (by decide) hc)

private theorem isNumberChar_of_mem_significant {digits : Nat} {exponent : Int} :
    ∀ c ∈ (significant digits exponent).1, isNumberChar c = true := by
  intro c hc
  have hkept := (List.dropWhile_suffix _).subset (List.mem_reverse.mp hc)
  exact isNumberChar_of_mem_toDigits c (List.mem_reverse.mp hkept)

private theorem isNumberChar_of_mem_positional {digits : List Char} {point : Int}
    (h : ∀ c ∈ digits, isNumberChar c = true) :
    ∀ c ∈ positional digits point, isNumberChar c = true := by
  have hzeros : ∀ n, ∀ c ∈ List.replicate n '0', isNumberChar c = true := by
    intro n c hc
    rw [List.eq_of_mem_replicate hc]
    decide
  unfold positional
  split
  · exact List.forall_mem_append.mpr
      ⟨List.forall_mem_append.mpr ⟨List.all_eq_true.mp (by decide), hzeros _⟩, h⟩
  · dsimp only
    split
    · exact List.forall_mem_append.mpr
        ⟨List.forall_mem_append.mpr ⟨h, hzeros _⟩, List.all_eq_true.mp (by decide)⟩
    · refine List.forall_mem_append.mpr ⟨fun c hc => h c (List.mem_of_mem_take hc), ?_⟩
      exact List.forall_mem_cons.mpr ⟨by decide, fun c hc => h c (List.mem_of_mem_drop hc)⟩

private theorem isNumberChar_of_mem_scientific {digits : List Char} {point : Int}
    (h : ∀ c ∈ digits, isNumberChar c = true) :
    ∀ c ∈ scientific digits point, isNumberChar c = true := by
  unfold scientific
  dsimp only
  refine List.forall_mem_append.mpr ⟨?_, List.forall_mem_cons.mpr ⟨by decide,
    List.forall_mem_cons.mpr ⟨?_, isNumberChar_of_mem_toDigits⟩⟩⟩
  · split
    · exact h
    · rcases List.forall_mem_cons.mp h with ⟨hfirst, hrest⟩
      exact List.forall_mem_cons.mpr ⟨hfirst, List.forall_mem_cons.mpr ⟨by decide, hrest⟩⟩
    · exact List.all_eq_true.mp (by decide)
  · split <;> decide

/-- Numbers are written with digits, signs, a point and the mark of an exponent. -/
theorem isNumberChar_of_mem_text {n : Number} : ∀ c ∈ n.text.toList, isNumberChar c = true := by
  cases n with
  | integer n =>
    cases n with
    | ofNat n => exact fun c hc => isNumberChar_of_isDigit (isDigit_of_mem_toString n c hc)
    | negSucc n =>
      rw [show (Number.integer (.negSucc n)).text = "-" ++ toString (n + 1) from rfl,
        String.toList_append]
      exact List.forall_mem_append.mpr ⟨List.all_eq_true.mp (by decide), fun c hc =>
        isNumberChar_of_isDigit (isDigit_of_mem_toString (n + 1) c hc)⟩
  | float x =>
    rw [show (Number.float x).text = floatText x from rfl]
    unfold floatText
    rw [String.toList_ofList]
    refine List.forall_mem_append.mpr ⟨?_, ?_⟩
    · split <;> exact List.all_eq_true.mp (by decide)
    · split
      · exact List.all_eq_true.mp (by decide)
      · dsimp only
        split
        · exact isNumberChar_of_mem_positional isNumberChar_of_mem_significant
        · exact isNumberChar_of_mem_scientific isNumberChar_of_mem_significant

mutual

/-- The text of a document without blanks. -/
def compact : Json → String
  | .null => "null"
  | .bool b => if b then "true" else "false"
  | .number n => n.text
  | .string s => quote s
  | .array items => "[" ++ compactItems items ++ "]"
  | .object fields => "\x7b" ++ compactFields fields ++ "\x7d"

/-- The items of an array, separated by commas. -/
def compactItems : List Json → String
  | [] => ""
  | [item] => compact item
  | item :: others => compact item ++ "," ++ compactItems others

/-- The fields of an object, separated by commas. -/
def compactFields : List (String × Json) → String
  | [] => ""
  | [(key, value)] => quote key ++ ":" ++ compact value
  | (key, value) :: others => quote key ++ ":" ++ compact value ++ "," ++ compactFields others

end

/-- A map of texts as an object with one field a line, each indented by two
    blanks. -/
def indented (fields : List (String × String)) : String :=
  match fields with
  | [] => "\x7b\x7d"
  | fields =>
    let line (field : String × String) := "  " ++ quote field.1 ++ ": " ++ quote field.2
    "\x7b\n" ++ String.intercalate ",\n" (fields.map line) ++ "\n\x7d"

end Json

end BrokerClient
