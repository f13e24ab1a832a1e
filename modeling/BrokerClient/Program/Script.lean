/-!
# Shell Scripts

A part of the language of the shell: simple commands with assignments and
redirections, one after the other, or as long as they succeed, or until one
succeeds. Words hold quotes, escapes and parameters. Whatever else the shell
knows, such as pipes, is not read.

A script is read character by character. The reader is always in one of a few
modes, and no character is looked at twice, but for the one that ends the name
of a parameter.

Together with the shell and the tools this is a world of programs to try
invocations in. The command line reaches it, and so do tests; what is proved
about invocations holds for all programs and uses nothing of it.

## Main definitions

* `Script.Word`: A word with its parameters.
* `Script.Command`: A simple command.
* `Script`: Commands with what connects them.
* `Script.parse?`: Reads a script.
-/

namespace BrokerClient

namespace Script

/-- A part of a word. Quoted parts are not split, and make a word even if they
    are empty. -/
inductive Part where
  | text (characters : List Char) (quoted : Bool)
  | parameter (name : List Char) (quoted : Bool)
  /-- A text in place of a parameter that is not set, or with `ifSet` in place
      of one that is. With `orEmpty` an empty parameter counts as not set. -/
  | choice (name : List Char) (orEmpty ifSet : Bool) (text : List Char) (quoted : Bool)
  deriving DecidableEq, Repr

/-- A word as the sequence of its parts. -/
abbrev Word := List Part

/-- The signs between words. -/
inductive Sign where
  | semicolon
  | andThen
  | orElse
  | input
  /-- The output of a number goes to a file, perhaps behind what is there. -/
  | output (number : Nat) (append : Bool)
  /-- The output of a number goes where that of another one goes. -/
  | merge (number other : Nat)
  deriving DecidableEq, Repr

/-- A word or a sign. -/
inductive Token where
  | word (w : Word)
  | sign (s : Sign)
  deriving DecidableEq, Repr

/-! ## Tokens -/

/-- What the reader is in the middle of. -/
inductive Mode where
  | plain
  | escaped
  | single
  | double
  | doubleEscaped
  /-- Behind a dollar sign. -/
  | dollar (quoted : Bool)
  /-- In the name of a parameter. -/
  | name (quoted : Bool) (read : List Char)
  /-- In the name of a parameter between braces. -/
  | braced (quoted : Bool) (read : List Char)
  /-- Behind a colon in front of a choice. -/
  | colon (quoted : Bool) (name : List Char)
  /-- In the text of a choice. -/
  | choice (quoted : Bool) (name : List Char) (orEmpty ifSet : Bool) (read : List Char)
  | comment
  /-- Behind a sign that may be doubled. -/
  | sign (c : Char)
  /-- Behind a sign for the output of a number. -/
  | output (number : Nat)
  /-- Behind a sign that merges the output of a number. -/
  | merge (number : Nat)
  deriving DecidableEq, Repr

/-- What was read: the tokens, the last one first, and the parts of a word that
    is not complete. -/
structure Reader where
  tokens : List Token
  word : Option Word
  mode : Mode

namespace Reader

/-- Adds a part to the word. -/
def addPart (r : Reader) (part : Part) : Reader :=
  { r with word := some (r.word.getD [] ++ [part]) }

/-- Adds a character to the word. -/
def addChar (r : Reader) (c : Char) (quoted : Bool) : Reader := r.addPart (.text [c] quoted)

/-- Ends the word. -/
def endWord (r : Reader) : Reader :=
  match r.word with
  | some w => { r with tokens := .word w :: r.tokens, word := none }
  | none => r

/-- Adds a sign. -/
def addSign (r : Reader) (s : Sign) : Reader :=
  { r with tokens := .sign s :: r.tokens, mode := .plain }

end Reader

/-- The characters of names. -/
def isNameChar (c : Char) : Bool := c.isAlphanum || c = '_'

/-- The names of parameters that are one character long. -/
def isSpecialName (c : Char) : Bool := c.isDigit || c ∈ ['@', '$', '?', '#', '*']

/-- The mode inside or outside double quotes. -/
def surrounding (quoted : Bool) : Mode := if quoted then .double else .plain

/-- Reads the sign for an output, with the number of the output in front of
    it. -/
def readOutputSign (r : Reader) : Reader :=
  match r.word with
  | some [.text ['2'] false] => { r with word := none, mode := .output 2 }
  | some [.text ['1'] false] => { r with word := none, mode := .output 1 }
  | _ => { r.endWord with mode := .output 1 }

/-- Reads a character outside quotes. -/
def readPlain (r : Reader) (c : Char) : Option Reader :=
  if c = ' ' || c = '\t' then some r.endWord
  else if c = '\n' || c = ';' then some (r.endWord.addSign .semicolon)
  else if c = '&' || c = '|' then some { r.endWord with mode := .sign c }
  else if c = '>' then some (readOutputSign r)
  else if c = '<' then some (r.endWord.addSign .input)
  else if c = '\\' then some { r with mode := .escaped }
  else if c = '\'' then some { r.addPart (.text [] true) with mode := .single }
  else if c = '"' then some { r.addPart (.text [] true) with mode := .double }
  else if c = '$' then some { r with mode := .dollar false }
  else if c = '#' && r.word.isNone then some { r with mode := .comment }
  else if c = '\x60' || c = '(' || c = ')' || c = '*' then none
  else some (r.addChar c false)

/-- Reads a character inside double quotes. -/
def readDouble (r : Reader) (c : Char) : Option Reader :=
  if c = '"' then some { r with mode := .plain }
  else if c = '\\' then some { r with mode := .doubleEscaped }
  else if c = '$' then some { r with mode := .dollar true }
  else if c = '\x60' then none
  else some (r.addChar c true)

/-- Reads a character outside of names and signs, where a name or sign may have
    ended in front of it. -/
def readAround (r : Reader) (c : Char) : Option Reader :=
  match r.mode with
  | .double => readDouble r c
  | _ => readPlain r c

/-- Reads a character behind a sign that must be doubled. -/
def readSign (r : Reader) (sign c : Char) : Option Reader :=
  if c ≠ sign then none
  else some (r.addSign (if sign = '&' then .andThen else .orElse))

/-- Reads a character behind the sign for the output of a number. -/
def readOutput (r : Reader) (number : Nat) (c : Char) : Option Reader :=
  if c = '>' then some (r.addSign (.output number true))
  else if c = '&' then some { r with mode := .merge number }
  else readPlain (r.addSign (.output number false)) c

/-- Reads the number of the output that another one is merged with. -/
def readMerge (r : Reader) (number : Nat) (c : Char) : Option Reader :=
  if c = '1' then some (r.addSign (.merge number 1))
  else if c = '2' then some (r.addSign (.merge number 2))
  else none

/-- Reads a character behind a dollar sign. -/
def readDollar (r : Reader) (quoted : Bool) (c : Char) : Option Reader :=
  if isSpecialName c then
    some { r.addPart (.parameter [c] quoted) with mode := surrounding quoted }
  else if isNameChar c then some { r with mode := .name quoted [c] }
  else if c = '\x7b' then some { r with mode := .braced quoted [] }
  else if c = '(' then none
  else readAround { r.addChar '$' quoted with mode := surrounding quoted } c

/-- Reads a character between braces behind the start of a name. -/
def readBraced (r : Reader) (quoted : Bool) (read : List Char) (c : Char) : Option Reader :=
  if read.isEmpty then
    if isNameChar c || isSpecialName c then some { r with mode := .braced quoted [c] } else none
  else if c = '\x7d' then
    some { r.addPart (.parameter read quoted) with mode := surrounding quoted }
  else if isNameChar c then some { r with mode := .braced quoted (read ++ [c]) }
  else if c = ':' then some { r with mode := .colon quoted read }
  else if c = '-' || c = '+' then some { r with mode := .choice quoted read false (c = '+') [] }
  else none

/-- Reads a character of the text of a choice. Only plain text is read. -/
def readChoice (r : Reader) (quoted : Bool) (name : List Char) (orEmpty ifSet : Bool)
    (read : List Char) (c : Char) : Option Reader :=
  if c = '\x7d' then
    some { r.addPart (.choice name orEmpty ifSet read quoted) with mode := surrounding quoted }
  else if c = '$' || c = '"' || c = '\'' || c = '\\' || c = '\x60' then none
  else some { r with mode := .choice quoted name orEmpty ifSet (read ++ [c]) }

/-- Reads a character. -/
def step (r : Reader) (c : Char) : Option Reader :=
  match r.mode with
  | .plain => readPlain r c
  | .escaped =>
    if c = '\n' then some { r with mode := .plain }
    else some { r.addChar c true with mode := .plain }
  | .single => if c = '\'' then some { r with mode := .plain } else some (r.addChar c true)
  | .double => readDouble r c
  | .doubleEscaped =>
    let r := { r with mode := .double }
    if c = '\n' then some r
    else if c = '$' || c = '"' || c = '\\' || c = '\x60' then some (r.addChar c true)
    else some ((r.addChar '\\' true).addChar c true)
  | .dollar quoted => readDollar r quoted c
  | .name quoted read =>
    if isNameChar c then some { r with mode := .name quoted (read ++ [c]) }
    else readAround { r.addPart (.parameter read quoted) with mode := surrounding quoted } c
  | .braced quoted read => readBraced r quoted read c
  | .colon quoted name =>
    if c = '-' || c = '+' then some { r with mode := .choice quoted name true (c = '+') [] }
    else none
  | .choice quoted name orEmpty ifSet read => readChoice r quoted name orEmpty ifSet read c
  | .comment => if c = '\n' then some (r.addSign .semicolon) else some r
  | .sign sign => readSign r sign c
  | .output number => readOutput r number c
  | .merge number => readMerge r number c

/-- The tokens of a script. The end of the script is the end of its last
    line. -/
def tokens? (script : List Char) : Option (List Token) := do
  let r ← (script ++ ['\n']).foldlM step ⟨[], none, .plain⟩
  if r.mode = .plain then some r.tokens.reverse else none

/-! ## Commands -/

/-- Where input comes from or output goes to. -/
inductive Redirection where
  | input (file : Word)
  | output (number : Nat) (file : Word) (append : Bool)
  | merge (number other : Nat)
  deriving DecidableEq, Repr

/-- A simple command. -/
structure Command where
  words : List Word
  redirections : List Redirection
  deriving DecidableEq, Repr

/-- Whether a command is run: always, if the one before it has succeeded, or if
    that has failed. -/
inductive Condition where
  | always
  | succeeded
  | failed
  deriving DecidableEq, Repr

/-- The words and redirections of tokens without signs between commands. -/
def command? : List Token → Option Command
  | [] => some ⟨[], []⟩
  | .word w :: rest => (command? rest).map fun c => ⟨w :: c.words, c.redirections⟩
  | .sign (.merge number other) :: rest => (command? rest).map (redirect (.merge number other))
  | .sign .input :: .word w :: rest => (command? rest).map (redirect (.input w))
  | .sign (.output number append) :: .word w :: rest =>
    (command? rest).map (redirect (.output number w append))
  | .sign _ :: _ => none
where
  /-- A command with one more redirection in front. -/
  redirect (r : Redirection) (c : Command) : Command :=
    { c with redirections := r :: c.redirections }

/-- Whether a sign stands between commands, and what it says about the command
    behind it. -/
def condition? : Token → Option Condition
  | .sign .semicolon => some .always
  | .sign .andThen => some .succeeded
  | .sign .orElse => some .failed
  | _ => none

/-- The runs of tokens between the signs that stand between commands. -/
def runs (condition : Condition) : List Token → List (Condition × List Token)
  | [] => [(condition, [])]
  | t :: rest =>
    match condition? t with
    | some next => (condition, []) :: runs next rest
    | none =>
      match runs condition rest with
      | (c, run) :: others => (c, t :: run) :: others
      | [] => [(condition, [t])]

end Script

/-- Commands, and when each of them is run. -/
abbrev Script := List (Script.Condition × Script.Command)

/-- Reads a script. Lines without a command count for nothing. -/
def Script.parse? (script : List Char) : Option Script := do
  let tokens ← Script.tokens? script
  let runs := (Script.runs .always tokens).filter fun run =>
    !(run.2.isEmpty && run.1 = .always)
  runs.mapM fun run => do
    if run.2.isEmpty then none else some (run.1, ← Script.command? run.2)

end BrokerClient
