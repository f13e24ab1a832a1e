import BrokerClient.Recipe.Quoting

/-!
# Makefiles with One Rule

A makefile that holds one phony rule with one recipe line, and a reader for such
files that follows make. The recipe line starts with two signs: one that makes
the line take part in the job limit of make, and one that keeps make from
printing the line.

The reader goes by lines. A backslash takes the character behind it along, a
line break too. Comments and blank lines count for nothing, a line that starts
with a tab belongs to the recipe of the rule above it, and every other line
names a target in front of its colon. One thing that make also does is left out:
in a recipe, it drops a tab right behind a line break that a backslash takes
along. The reader keeps such a tab.

## Main definitions

* `Makefile.text`: The makefile of a rule.
* `Makefile.logicalLines`: The lines of a makefile as make sees them.
* `Makefile.readRules`: The rules of a makefile.
* `Makefile.recipeWords`: The words that a recipe line runs.
-/

namespace BrokerClient

namespace Makefile

/-- A target and the lines of its recipe. -/
structure Rule where
  target : List Char
  recipe : List (List Char)
  deriving DecidableEq, Repr

/-- The target that lists phony targets and has no recipe of its own. -/
def phonyTarget : List Char := ".PHONY".toList

/-- The signs in front of a recipe line: it hands the job limit on and is not
    printed. -/
def signs : List Char := ['+', '@']

/-- The text of a makefile with a comment and one phony rule, whose recipe is
    one line. -/
def text (comment target recipe : List Char) : List Char :=
  '#' :: ' ' :: comment ++ '\n' ::
    phonyTarget ++ ':' :: ' ' :: target ++ '\n' ::
    target ++ ':' :: '\n' ::
    '\t' :: signs ++ recipe ++ ['\n']

/-! ## Reading -/

/-- The lines of a text. A line ends at a line break that no backslash takes
    along. -/
def logicalLines : List Char → List (List Char)
  | [] => []
  | '\n' :: r => [] :: logicalLines r
  | '\\' :: c :: r =>
    -- The backslash stays in the line. Only the shell takes it off.
    match logicalLines r with
    | line :: lines => ('\\' :: c :: line) :: lines
    | [] => [['\\', c]]
  | c :: r =>
    match logicalLines r with
    | line :: lines => (c :: line) :: lines
    | [] => [[c]]

/-- Adds a recipe line to the last of the rules. -/
def addRecipeLine (line : List Char) : List Rule → Option (List Rule)
  | [] => none
  | [rule] => some [{ rule with recipe := rule.recipe ++ [line] }]
  | rule :: rules => (addRecipeLine line rules).map (rule :: ·)

/-- Reads one line into the rules before it. -/
def readLine (rules : List Rule) (line : List Char) : Option (List Rule) :=
  match line with
  | [] => some rules
  | '#' :: _ => some rules
  | '\t' :: recipe => addRecipeLine recipe rules
  | line =>
    let target := line.takeWhile (· ≠ ':')
    if target.length = line.length then none
    else if target = phonyTarget then some rules
    else some (rules ++ [⟨target, []⟩])

/-- The rules of a makefile, if every line has a meaning. -/
def readRules (source : List Char) : Option (List Rule) :=
  (logicalLines source).foldlM readLine []

/-- The words that a recipe line runs: make takes the signs off and expands
    the line, and the shell splits it. -/
def recipeWords (line : List Char) : Option (List (List Char)) :=
  (Recipe.expandDollars (line.dropWhile fun c => signs.contains c)).bind Recipe.splitWords

end Makefile

end BrokerClient
