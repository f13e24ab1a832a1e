import BrokerClient.Text.OsText

/-!
# Grammars of Command Lines

What a program accepts behind its name: options, at most one kind of positional
argument, and commands. A command has a grammar of its own for what follows
it.

Options are flags or take a value. The value stands behind an equals sign or is
the next argument; an option with an inline value takes the first form only
and may be given without a value.

## Main definitions

* `Options.Spec`: An option.
* `Options.Positional`: The positional arguments.
* `Options.Grammar`: A command line.
* `Options.Error`: Why a command line is not accepted, or which report it asks for.
-/

namespace BrokerClient

namespace Options

/-- What is wrong with a value. -/
inductive Fault where
  | notText
  | missing
  | invalid
  deriving DecidableEq, Repr

/-- What an option does. -/
inductive Role where
  /-- It is there or not. -/
  | flag
  /-- It takes a value, shown by a name. -/
  | value (shown : String)
  /-- It takes a value behind an equals sign, or stands for a default. -/
  | inlineValue (shown : String) (default : OsText)
  /-- It asks for the help text. -/
  | help
  /-- It asks for the version. -/
  | version
  deriving DecidableEq, Repr

/-- An option with its spellings. -/
structure Spec where
  long : String
  short : Option Char := none
  role : Role
  /-- Whether it may be given more than once. -/
  repeatable : Bool := false
  /-- What is wrong with a value, if anything. -/
  check : OsText → Option Fault := fun _ => none
  /-- The option that it cannot be used with. -/
  excludes : Option String := none
  about : String
  /-- Whether the help text leaves it out. -/
  hidden : Bool := false

/-- The positional arguments. -/
structure Positional where
  shown : String
  required : Bool
  /-- Whether there may be more than one. -/
  many : Bool
  /-- Whether the first of them may look like an option, and takes everything
      behind it along. -/
  takesRest : Bool
  check : OsText → Option Fault := fun _ => none
  about : String

/-- A command line. -/
structure Grammar where
  /-- The name of the program or command. -/
  name : String
  about : String
  options : List Spec
  positional : Option Positional := none
  /-- The commands with their descriptions. -/
  commands : List (String × String) := []
  /-- What is printed for the version. -/
  version : String := ""

/-- The value must be a text. -/
def requireText (value : OsText) : Option Fault :=
  if value.text?.isSome then none else some .notText

/-- The option as messages show it. -/
def Spec.shown (s : Spec) : String :=
  match s.role with
  | .value name => "--" ++ s.long ++ " <" ++ name ++ ">"
  | .inlineValue name _ => "--" ++ s.long ++ "[=<" ++ name ++ ">]"
  | _ => "--" ++ s.long

/-- The positional arguments as messages show them. -/
def Positional.display (p : Positional) : String :=
  (if p.required then "<" ++ p.shown ++ ">" else "[" ++ p.shown ++ "]") ++
    if p.many then "..." else ""

namespace Grammar

/-- The option with a long name. -/
def long? (g : Grammar) (name : List Char) : Option Spec :=
  g.options.find? fun s => s.long.toList = name

/-- The option with a letter. -/
def short? (g : Grammar) (letter : Char) : Option Spec :=
  g.options.find? fun s => s.short = some letter

/-- The name of the command that an argument asks for. -/
def command? (g : Grammar) (argument : OsText) : Option String :=
  (g.commands.find? fun c => OsText.ofString c.1 = argument).map Prod.fst

end Grammar

/-- Why a command line is not accepted, or which report it asks for. -/
inductive Error where
  | unexpected (argument : String)
  | unknownCommand (word : String)
  | missingArguments (shown : List String)
  | repeated (option : String)
  | excluded (option other : String)
  | unneededValue (value option : String)
  | missingValue (option : String)
  | notText
  | invalidValue (value option : String)
  | help (text : String)
  | version (text : String)
  deriving DecidableEq, Repr

namespace Error

/-- The wording of an error, or the text of a report. -/
def message : Error → String
  | unexpected argument => "error: unexpected argument '" ++ argument ++ "' found"
  | unknownCommand word => "error: unrecognized subcommand '" ++ word ++ "'"
  | missingArguments shown =>
    "error: the following required arguments were not provided:" ++
      String.join (shown.map ("\n  " ++ ·))
  | repeated option =>
    "error: the argument '" ++ option ++ "' cannot be used multiple times"
  | excluded option other =>
    "error: the argument '" ++ option ++ "' cannot be used with '" ++ other ++ "'"
  | unneededValue value option =>
    "error: unexpected value '" ++ value ++ "' for '" ++ option ++
      "' found; no more were expected"
  | missingValue option =>
    "error: a value is required for '" ++ option ++ "' but none was supplied"
  | notText => "error: invalid UTF-8 was detected in one or more arguments"
  | invalidValue value option => "error: invalid value '" ++ value ++ "' for '" ++ option ++ "'"
  | help text => text
  | version text => text

/-- Whether it is a report that was asked for. -/
def isReport : Error → Bool
  | help _ | version _ => true
  | _ => false

end Error

end Options

end BrokerClient
