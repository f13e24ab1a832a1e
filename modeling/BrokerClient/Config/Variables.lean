import BrokerClient.Host.Environment
import BrokerClient.Json.Overlay
import BrokerClient.Number.Decimal
import BrokerClient.Text.Splitting
import BrokerClient.Toml.Text
import BrokerClient.Unicode.Blank

/-!
# Settings in Variables

Settings that the environment gives. A variable whose name begins with a fixed
mark, in letters of any case, gives the setting that the rest of its name says;
two underscores in the rest separate the keys of nested settings.

Values are texts with a little syntax of their own: lists in brackets, tables in
braces, texts between quotes, truth values and numbers. What does not fit the
syntax is the text itself, and a text with commas that does not begin like a
value is a list of texts. Numbers with a fraction that are too large for the
format become `null`.

## Main definitions

* `Variables.readValue`: A value at the front of a text.
* `Variables.value`: The value that a whole text is.
* `Variables.settings`: The settings of an environment.
-/

namespace BrokerClient

namespace Variables

/-! ## Values -/

/-- The three characters that may stand around values. -/
def isBlank (c : Char) : Bool := c = ' ' || c = '\t' || c = '\n'

/-- The characters that end a text without quotes. -/
def isSeparator (c : Char) : Bool :=
  c = ',' || c = '\x7b' || c = '\x7d' || c = '[' || c = ']'

/-- The characters of keys without quotes. -/
def isKeyChar (c : Char) : Bool := c.isAlphanum || c = '_' || c = '-'

/-- The text from its first character that is not blank. -/
def skipBlanks (s : List Char) : List Char := s.dropWhile isBlank

/-- The integer that a text writes, with a sign or without, if it fits 64
    bits. -/
def integer? (cs : List Char) : Option Int := do
  let (negative, digits) := Decimal.readSign cs
  let n ← Digits.number? 10 digits
  if if negative then n ≤ Nat.pow 2 63 else n < Nat.pow 2 64 then
    some (if negative then -n else n)
  else none

/-- A text without quotes: a number if it writes one, else the text. -/
def bare (cs : List Char) : Json :=
  let fraction := if cs.contains '.' then Decimal.ofChars? cs else none
  match fraction with
  | some d => (d.toBinary64?.map fun x => Json.number (.float x)).getD .null
  | none =>
    match integer? cs with
    | some n => .number (.integer n)
    | none => .string (String.ofList cs)

/-- A reader of values. -/
abbrev Reader := List Char → Option (Json × List Char)

/-- A key, with blanks around it. -/
def readKey (s : List Char) : Option (String × List Char) := do
  let (key, rest) ← match skipBlanks s with
    | '"' :: r => Toml.readBasic r
    | s =>
      let key := s.takeWhile isKeyChar
      if key.isEmpty then none else some (key, s.dropWhile isKeyChar)
  some (String.ofList key, skipBlanks rest)

/-- A key and its value. -/
def readField (item : Reader) (s : List Char) : Option ((String × Json) × List Char) := do
  match ← readKey s with
  | (key, '=' :: r) =>
    let (value, rest) ← item (skipBlanks r)
    some ((key, value), skipBlanks rest)
  | _ => none

/-- The items of a list up to and including the closing character. A comma may
    stand behind the last item. -/
def readItems {α : Type} (item : List Char → Option (α × List Char)) (close : Char)
    (s : List Char) : Option (List α × List Char) :=
  match s with
  | [] => none
  | c :: r =>
    if c = close then some ([], r)
    else
      match item (c :: r) with
      | none => none
      | some (_, []) => none
      | some (first, d :: rest) =>
        if d = close then some ([first], rest)
        else if d = ',' then
          if rest.length ≤ r.length then
            (readItems item close rest).map fun (others, rest) => (first :: others, rest)
          else none
        else none
termination_by s.length

/-- A value, with blanks around it, in which lists and tables are nested at
    most so deep. -/
def readValue (depth : Nat) (s : List Char) : Option (Json × List Char) := do
  let (value, rest) ← match skipBlanks s with
    | 't' :: 'r' :: 'u' :: 'e' :: r => some (.bool true, r)
    | 'f' :: 'a' :: 'l' :: 's' :: 'e' :: r => some (.bool false, r)
    | '[' :: r =>
      match depth with
      | 0 => none
      | depth + 1 =>
        (readItems (readValue depth) ']' r).map fun (items, rest) => (Json.array items, rest)
    | '\x7b' :: r =>
      match depth with
      | 0 => none
      | depth + 1 =>
        (readItems (readField (readValue depth)) '\x7d' r).map fun (fields, rest) =>
          (Json.ofFields fields, rest)
    | '"' :: r => (Toml.readBasic r).map fun (cs, rest) => (.string (String.ofList cs), rest)
    | '\'' :: c :: '\'' :: r => some (.string (String.ofList [c]), r)
    | '\'' :: _ => none
    | s =>
      let word := s.takeWhile fun c => !isSeparator c
      some (bare (Unicode.trim word), s.drop word.length)
  some (value, skipBlanks rest)

/-- Whether a text begins like a list, a table or a text between quotes. -/
def isMarked (cs : List Char) : Bool :=
  match cs with
  | c :: _ => c = '[' || c = '\x7b' || c = '"' || c = '\''
  | [] => false

/-- A text with the letters of the alphabet in lower case. -/
def lower (cs : List Char) : List Char := cs.map Char.toLower

/-- The value that a whole text is. No value is nested deeper than its text is
    long. -/
def value (text : List Char) : Json :=
  let cs := Unicode.trim text
  -- A comma makes a list before anything else is tried.
  if cs.contains ',' && !isMarked cs then
    .array ((splitAll ',' cs).map fun part => .string (String.ofList (Unicode.trim part)))
  else if lower cs = "true".toList then .bool true
  else if lower cs = "false".toList then .bool false
  else
    match readValue cs.length cs with
    | some (value, []) => value
    | _ => .string (String.ofList cs)

/-! ## Names -/

/-- The mark in front of the names of settings. -/
def mark : List Char := "tcf_".toList

/-- The parts of a name between two underscores or at points. -/
def nameParts : List Char → List (List Char)
  | '_' :: '_' :: r => [] :: nameParts r
  | '.' :: r => [] :: nameParts r
  | c :: r =>
    match nameParts r with
    | part :: parts => (c :: part) :: parts
    | [] => [[c]]
  | [] => [[]]

/-- The key of the setting that the name of a variable stands for, and the path
    of keys below it. There is none if the name does not begin with the mark or
    has no key behind it. -/
def path? (name : OsText) : Option (String × List String) :=
  let cs := lower (Unicode.trim name.shownChars)
  if mark.isPrefixOf cs then
    match nameParts (cs.drop mark.length) with
    | key :: path => if key.isEmpty then none else some (String.ofList key, path.map String.ofList)
    | [] => none
  else none

/-- The settings of an environment as the fields of an object. Of two variables
    for one setting the later one counts. -/
def settings (environment : Environment) : List (String × Json) :=
  environment.bindings.foldl (fun settings (name, text) =>
    match path? name with
    | some (key, path) =>
      Json.overlayFields [(key, Json.nest path (value text.shownChars))] settings
    | none => settings) []

end Variables

end BrokerClient
