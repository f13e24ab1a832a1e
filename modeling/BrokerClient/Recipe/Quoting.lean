/-!
# Quoting for Recipes

A recipe line of a makefile passes two readers: make expands references that
start with a dollar sign, and the shell then splits the line into words. A word
is written between single quotes, a single quote inside it leaves the quotes,
is escaped and enters them again, and a dollar sign is doubled so that make
hands one on.

The two readers are defined beside the writer. `expandDollars` accepts only
doubled dollar signs, and `splitWords` is the word splitting of the shell for
quotes, escapes and blanks; it refuses every other character that has a meaning
to the shell outside quotes.

## Main definitions

* `Recipe.quoteWord`, `Recipe.quoteWords`: Words for a recipe line.
* `Recipe.expandDollars`: What make hands to the shell.
* `Recipe.splitWords`: The words that the shell sees.
-/

namespace BrokerClient

namespace Recipe

/-- A character of a word between single quotes. -/
def quoteChar (c : Char) : List Char :=
  if c = '\'' then ['\'', '\\', '\'', '\'']
  else if c = '$' then ['$', '$']
  else [c]

/-- A word between single quotes. -/
def quoteWord (word : List Char) : List Char :=
  '\'' :: word.flatMap quoteChar ++ ['\'']

/-- Words separated by single spaces. -/
def quoteWords (words : List (List Char)) : List Char :=
  List.intercalate [' '] (words.map quoteWord)

/-- Words separated by single spaces, as text. -/
def quote (words : List String) : String :=
  String.ofList (quoteWords (words.map String.toList))

/-- Undoes the doubling of dollar signs. A dollar sign that is not followed by
    another one would be a reference, which a written recipe never has. -/
def expandDollars : List Char → Option (List Char)
  | [] => some []
  | ['$'] => none
  | '$' :: c :: r => if c = '$' then (expandDollars r).map ('$' :: ·) else none
  | c :: r => (expandDollars r).map (c :: ·)

/-- The blanks that separate words outside quotes. -/
def isShellBlank (c : Char) : Bool := c = ' ' || c = '\t'

/-- Characters other than quotes, blanks and the backslash that mean something
    to the shell outside quotes. -/
def isShellSpecial (c : Char) : Bool :=
  c ∈ ['\n', '|', '&', ';', '<', '>', '(', ')', '$', '\x60', '*', '?', '[', '#', '~', '"', '\x00']

/-- The state of the shell inside a line: between words, inside an unquoted
    part of a word, or between single quotes. The word so far is reversed. -/
inductive SplitState where
  | between
  | inWord (reversed : List Char)
  | inQuotes (reversed : List Char)

/-- Reads a line from a state, collecting words. -/
def splitFrom : SplitState → List Char → Option (List (List Char))
  | .between, [] => some []
  | .inWord w, [] => some [w.reverse]
  | .inQuotes _, [] => none
  | .inQuotes w, c :: r =>
    if c = '\'' then splitFrom (.inWord w) r else splitFrom (.inQuotes (c :: w)) r
  | .between, '\\' :: c :: r => splitFrom (.inWord [c]) r
  | .inWord w, '\\' :: c :: r => splitFrom (.inWord (c :: w)) r
  | .between, c :: r =>
    if isShellBlank c then splitFrom .between r
    else if c = '\'' then splitFrom (.inQuotes []) r
    else if c = '\\' || isShellSpecial c then none
    else splitFrom (.inWord [c]) r
  | .inWord w, c :: r =>
    if isShellBlank c then (splitFrom .between r).map (w.reverse :: ·)
    else if c = '\'' then splitFrom (.inQuotes w) r
    else if c = '\\' || isShellSpecial c then none
    else splitFrom (.inWord (c :: w)) r

/-- The words of a line as the shell splits it, if the line uses nothing but
    words, single quotes, escapes and blanks. -/
def splitWords (line : List Char) : Option (List (List Char)) :=
  splitFrom .between line

end Recipe

end BrokerClient
