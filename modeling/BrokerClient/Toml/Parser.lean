import BrokerClient.Text.Utf8
import BrokerClient.Toml.Scalar
import BrokerClient.Toml.Table

/-!
# Reading TOML

A strict reader of TOML documents. What a document says is collected in a tree
of tables, and every line, a key with a value or a header, is one change of
that tree.

The readers of values inside arrays and inline tables recurse on how deep
values may still be nested. A loop over items, fields or lines goes on only if
its last step has taken something, which every step does.

## Main definitions

* `Toml.readKey`: A key, dotted or not.
* `Toml.readValue`: A value that is nested at most so deep.
* `Toml.Draft`: The tree so far and the table that the next line belongs to.
* `Toml.parse?`: The document that a whole text is.
-/

namespace BrokerClient

namespace Toml

/-! ## Keys -/

/-- The characters of keys without quotes. -/
def isBareKeyChar (c : Char) : Bool := c.isAlphanum || c = '-' || c = '_'

/-- One part of a key, with blanks around it. -/
def readKeyPart (s : List Char) : Option (String × List Char) := do
  let s := skipBlanks s
  let (part, rest) ← match s with
    | '"' :: _ | '\'' :: _ => readLineText s
    | s =>
      let bare := s.takeWhile isBareKeyChar
      if bare.isEmpty then none else some (String.ofList bare, s.dropWhile isBareKeyChar)
  some (part, skipBlanks rest)

/-- Further parts of a key, each behind a dot. -/
def readKeyParts (s : List Char) : Option (List String × List Char) :=
  match s with
  | '.' :: r =>
    match readKeyPart r with
    | none => none
    | some (part, rest) =>
      if rest.length ≤ r.length then
        (readKeyParts rest).map fun (parts, rest) => (part :: parts, rest)
      else none
  | s => some ([], s)
termination_by s.length

/-- How many levels of keys and values a document may have, plus one. -/
def levelLimit : Nat := 80

/-- A key as the path in front of its last part, and that part. -/
def readKey (s : List Char) : Option ((List String × String) × List Char) := do
  let (first, s) ← readKeyPart s
  let (others, rest) ← readKeyParts s
  let parts := first :: others
  if parts.length < levelLimit then some ((parts.dropLast, parts.getLast?.getD first), rest)
  else none

/-! ## Values -/

/-- A reader of values. -/
abbrev Reader := List Char → Option (Json × List Char)

/-- The items of an array up to and including the closing bracket. A comma may
    stand behind the last item. -/
def readItems (item : Reader) (s : List Char) : Option (List Json × List Char) :=
  match skipLines s with
  | ']' :: r => some ([], r)
  | front =>
    match item front with
    | none => none
    | some (first, rest) =>
      match skipLines rest with
      | ']' :: r => some ([first], r)
      | ',' :: r =>
        if r.length < s.length then
          (readItems item r).map fun (others, rest) => (first :: others, rest)
        else none
      | _ => none
termination_by s.length

/-- A key and its value. -/
def readField (item : Reader) (s : List Char) :
    Option (((List String × String) × Json) × List Char) := do
  let (key, s) ← readKey s
  let (value, rest) ← item (skipBlanks (← expect '=' s))
  some ((key, value), skipBlanks rest)

/-- The fields of an inline table up to and including the closing brace. -/
def readFields (item : Reader) (entries : Entries) (s : List Char) :
    Option (Entries × List Char) :=
  match readField item s with
  | none => none
  | some (((path, key), value), rest) =>
    match assign path key value entries, rest with
    | some entries, '\x7d' :: r => some (entries, r)
    | some entries, ',' :: r => if r.length < s.length then readFields item entries r else none
    | _, _ => none
termination_by s.length

/-- An array, behind its opening bracket. -/
def readArray (item : Reader) (s : List Char) : Option (Json × List Char) :=
  (readItems item s).map fun (items, rest) => (.array items, rest)

/-- An inline table, behind its opening brace. -/
def readInlineTable (item : Reader) (s : List Char) : Option (Json × List Char) :=
  match skipBlanks s with
  | '\x7d' :: r => some (.object [], r)
  | s => (readFields item [] s).map fun (entries, rest) => (.object (entriesToJson entries), rest)

/-- A value in which arrays and inline tables are nested less than `depth`
    levels. -/
def readValue (depth : Nat) (s : List Char) : Option (Json × List Char) :=
  match s with
  | '"' :: _ | '\'' :: _ => (readText s).map fun (text, rest) => (.string text, rest)
  | '[' :: r =>
    match depth with
    | 0 => none
    | depth + 1 => readArray (readValue depth) r
  | '\x7b' :: r =>
    match depth with
    | 0 => none
    | depth + 1 => readInlineTable (readValue depth) r
  | s => readScalar s

/-! ## Documents -/

/-- The tree so far, and the path of the table that the next line belongs
    to. -/
structure Draft where
  root : Entries
  current : List String

/-- The text behind the end of a line, with blanks and a comment in front. The
    end of the text ends a line, too. -/
def endOfLine? (s : List Char) : Option (List Char) :=
  match skipComment (skipBlanks s) with
  | [] => some []
  | s => newline? s

/-- Reads a header behind its opening brackets, of which there are one or two
    by whether it adds to a list. -/
def readHeader (adds : Bool) (draft : Draft) (s : List Char) : Option (Draft × List Char) := do
  let ((path, key), s) ← readKey s
  let s ← expect ']' s
  let s ← if adds then expect ']' s else some s
  let root ← (if adds then openElement else openTable) path key draft.root
  some (⟨root, path ++ [key]⟩, ← endOfLine? s)

/-- Reads a key with its value into the table that the line belongs to. -/
def readAssignment (draft : Draft) (s : List Char) : Option (Draft × List Char) := do
  let (((path, key), value), rest) ← readField (readValue (levelLimit - 1)) s
  let root ←
    changeAt .path (fun _ entries => assign path key value entries) .header draft.current
      draft.root
  some ({ draft with root }, ← endOfLine? rest)

/-- Reads one line, blanks in front of it skipped. -/
def readLine (draft : Draft) (s : List Char) : Option (Draft × List Char) :=
  match s with
  | '#' :: _ | '\n' :: _ | '\r' :: _ => (endOfLine? s).map fun rest => (draft, rest)
  | '[' :: '[' :: r => readHeader true draft r
  | '[' :: r => readHeader false draft r
  | s => readAssignment draft s

/-- Reads all lines. -/
def readDocument (draft : Draft) (s : List Char) : Option Entries :=
  match skipBlanks s with
  | [] => some draft.root
  | front =>
    match readLine draft front with
    | none => none
    | some (draft, rest) => if rest.length < s.length then readDocument draft rest else none
termination_by s.length

/-- The mark that may stand in front of a document. -/
def byteOrderMark : Char := '\uFEFF'

/-- The fields of the document that a whole text is. -/
def parse? (text : List Char) : Option (List (String × Json)) :=
  let body := match text with
    | c :: r => if c = byteOrderMark then r else c :: r
    | [] => []
  (readDocument ⟨[], []⟩ body).map entriesToJson

end Toml

end BrokerClient
