import BrokerClient.Number.Decimal

/-!
# TOML Texts

What stands between the tokens of a TOML document, and texts in their four
forms: between double quotes with escapes, between single quotes without, and
each of them over several lines.

A reader takes a text and returns what it found with the rest, or nothing if
the front of the text is not what it reads.

## Main definitions

* `Toml.isPrintable`: The characters that comments and texts may hold.
* `Toml.newline?`: The text behind the end of a line.
* `Toml.skipBlanks`, `Toml.skipComment`, `Toml.skipLines`: Skipping.
* `Toml.readText`: A text in any of its forms.
-/

namespace BrokerClient

namespace Toml

/-- The characters that comments and texts may hold: all but the controls, and
    the tabulator. -/
def isPrintable (c : Char) : Bool :=
  c = '\t' || (0x20 ≤ c.toNat && c.toNat ≤ 0x7E) || 0x80 ≤ c.toNat

/-- The two characters that may stand between the tokens of a line. -/
def isBlank (c : Char) : Bool := c = ' ' || c = '\t'

/-- The text behind the end of a line, if the text starts with one. -/
def newline? : List Char → Option (List Char)
  | '\n' :: r => some r
  | '\r' :: '\n' :: r => some r
  | _ => none

/-- The text from its first character that is not blank. -/
def skipBlanks (s : List Char) : List Char := s.dropWhile isBlank

/-- The text behind a comment, if it starts with one. The end of the line is
    not part of the comment. -/
def skipComment (s : List Char) : List Char :=
  match s with
  | '#' :: r => r.dropWhile isPrintable
  | s => s

theorem length_newline?_lt {s r : List Char} (h : newline? s = some r) :
    r.length < s.length := by
  unfold newline? at h
  split at h
  · cases h
    exact Nat.lt_succ_self _
  · cases h
    exact Nat.lt_succ_of_lt (Nat.lt_succ_self _)
  · cases h

theorem length_skipBlanks_le (s : List Char) : (skipBlanks s).length ≤ s.length :=
  (List.dropWhile_suffix isBlank).sublist.length_le

theorem length_skipComment_le (s : List Char) : (skipComment s).length ≤ s.length := by
  unfold skipComment
  split
  · exact Nat.le_succ_of_le (List.dropWhile_suffix isPrintable).sublist.length_le
  · exact Nat.le_refl _

/-- The text from its first character that is neither blank nor the end of a
    line. -/
def skipBlankLines (s : List Char) : List Char :=
  match _ : newline? (skipBlanks s) with
  | some r => skipBlankLines r
  | none => skipBlanks s
termination_by s.length
decreasing_by
  exact Nat.lt_of_lt_of_le (length_newline?_lt (by assumption)) (length_skipBlanks_le s)

/-- The text from its first character that is neither blank nor the end of a
    line nor in a comment. -/
def skipLines (s : List Char) : List Char :=
  match _ : newline? (skipComment (skipBlanks s)) with
  | some r => skipLines r
  | none => skipComment (skipBlanks s)
termination_by s.length
decreasing_by
  exact Nat.lt_of_lt_of_le (length_newline?_lt (by assumption))
    (Nat.le_trans (length_skipComment_le _) (length_skipBlanks_le s))

theorem length_skipBlankLines_le (s : List Char) : (skipBlankLines s).length ≤ s.length := by
  fun_induction skipBlankLines s with
  | case1 s r h ih =>
    have := length_newline?_lt h
    have := length_skipBlanks_le s
    omega
  | case2 s h => exact length_skipBlanks_le s

/-! ## Texts -/

/-- The character with a number that is written with so many digits of base
    sixteen. -/
def numbered? (count : Nat) (s : List Char) : Option Char := do
  let digits := s.take count
  if digits.length < count then none
  else
    let n ← Digits.number? 16 digits
    if n.isValidChar then some (Char.ofNat n) else none

/-- The character that an escape stands for, given the text behind its
    backslash, and how many characters the escape has there. -/
def escape? : List Char → Option (Char × Nat)
  | 'b' :: _ => some ('\x08', 1)
  | 't' :: _ => some ('\t', 1)
  | 'n' :: _ => some ('\n', 1)
  | 'f' :: _ => some ('\x0c', 1)
  | 'r' :: _ => some ('\r', 1)
  | '"' :: _ => some ('"', 1)
  | '\\' :: _ => some ('\\', 1)
  | 'u' :: r => (numbered? 4 r).map fun c => (c, 5)
  | 'U' :: r => (numbered? 8 r).map fun c => (c, 9)
  | _ => none

/-- A character in front of a text that was read. -/
def prepend (c : Char) (t : List Char × List Char) : List Char × List Char := (c :: t.1, t.2)

/-- A text with escapes, behind its opening quote. -/
def readBasic (s : List Char) : Option (List Char × List Char) :=
  match s with
  | [] => none
  | '"' :: r => some ([], r)
  | '\\' :: r =>
    match escape? r with
    | some (c, count) => (readBasic (r.drop count)).map (prepend c)
    | none => none
  | c :: r => if isPrintable c then (readBasic r).map (prepend c) else none
termination_by s.length
decreasing_by
  · simp only [List.length_drop, List.length_cons]
    omega
  · simp

/-- A text without escapes, behind its opening quote. -/
def readLiteral (s : List Char) : Option (List Char × List Char) :=
  match s with
  | [] => none
  | '\'' :: r => some ([], r)
  | c :: r => if isPrintable c then (readLiteral r).map (prepend c) else none

/-- The text of up to two quotes that stand behind three closing ones, and the
    rest. They belong to the text that is closed. -/
def extraQuotes (quote : Char) (s : List Char) : List Char × List Char :=
  (List.replicate ((s.take 2).takeWhile (· = quote)).length quote,
    s.drop ((s.take 2).takeWhile (· = quote)).length)

/-- A text with escapes over several lines, behind its opening quotes. A
    backslash at the end of a line joins it with the next line that is not
    blank. -/
def readBasicLines (s : List Char) : Option (List Char × List Char) :=
  match s with
  | [] => none
  | '"' :: '"' :: '"' :: r => some (extraQuotes '"' r)
  | '\\' :: r =>
    -- Nothing but blanks up to the end of the line: the lines are joined.
    match _ : newline? (skipBlanks r) with
    | some next => readBasicLines (skipBlankLines next)
    | none =>
      match escape? r with
      | some (c, count) => (readBasicLines (r.drop count)).map (prepend c)
      | none => none
  | '\r' :: '\n' :: r => (readBasicLines r).map (prepend '\n')
  | c :: r => if isPrintable c || c = '\n' then (readBasicLines r).map (prepend c) else none
termination_by s.length
decreasing_by
  · have h₁ := length_skipBlankLines_le next
    have h₂ := length_newline?_lt (r := next) (s := skipBlanks r) (by assumption)
    have h₃ := length_skipBlanks_le r
    simp only [List.length_cons]
    omega
  · simp only [List.length_drop, List.length_cons]
    omega
  · simp only [List.length_cons]
    omega
  · simp

/-- A text without escapes over several lines, behind its opening quotes. -/
def readLiteralLines (s : List Char) : Option (List Char × List Char) :=
  match s with
  | [] => none
  | '\'' :: '\'' :: '\'' :: r => some (extraQuotes '\'' r)
  | '\r' :: '\n' :: r => (readLiteralLines r).map (prepend '\n')
  | c :: r => if isPrintable c || c = '\n' then (readLiteralLines r).map (prepend c) else none
termination_by s.length

/-- The text behind the opening quotes of several lines, without the end of the
    line that they stand in. -/
def dropFirstNewline (s : List Char) : List Char := (newline? s).getD s

/-- A text in any of its forms. -/
def readText (s : List Char) : Option (String × List Char) :=
  let found := match s with
    | '"' :: '"' :: '"' :: r => readBasicLines (dropFirstNewline r)
    | '\'' :: '\'' :: '\'' :: r => readLiteralLines (dropFirstNewline r)
    | '"' :: r => readBasic r
    | '\'' :: r => readLiteral r
    | _ => none
  found.map fun (cs, rest) => (String.ofList cs, rest)

/-- A text in a form of one line. -/
def readLineText (s : List Char) : Option (String × List Char) :=
  let found := match s with
    | '"' :: r => readBasic r
    | '\'' :: r => readLiteral r
    | _ => none
  found.map fun (cs, rest) => (String.ofList cs, rest)

end Toml

end BrokerClient
