import BrokerClient.Options.Grammar

/-!
# Help Texts

The help text of a grammar: what it is for, how it is used, and its commands,
positional arguments and options, each with a description. The descriptions
of a section stand in one column.

## Main definitions

* `Options.Grammar.usage`: How a program is used, in one line.
* `Options.Grammar.help`: The help text.
-/

namespace BrokerClient

namespace Options

namespace Grammar

/-- Whether an option is listed in the line of use. -/
def isListed (s : Spec) : Bool := !s.hidden && s.role ≠ .help && s.role ≠ .version

/-- How a program that was called by a name is used, in one line. -/
def usage (g : Grammar) (calledAs : String) : String :=
  calledAs ++ (if g.options.any isListed then " [OPTIONS]" else "") ++
    (match g.positional with
      | some p => " " ++ p.display
      | none => "") ++
    if g.commands.isEmpty then "" else " [COMMAND]"

/-- The spellings of an option with its value. -/
def spellings (s : Spec) : String :=
  (match s.short with
    | some letter => "-" ++ letter.toString ++ ", "
    | none => "    ") ++ s.shown

/-- A line for each entry, with the descriptions in one column. -/
def table (entries : List (String × String)) : String :=
  let width := (entries.map fun e => e.1.length).foldl max 0
  String.join (entries.map fun e =>
    "  " ++ e.1 ++ String.ofList (List.replicate (width - e.1.length) ' ') ++ "  " ++ e.2 ++ "\n")

/-- A section with its title, unless it is empty. -/
def titled (title : String) (entries : List (String × String)) : List String :=
  if entries.isEmpty then [] else [title ++ ":\n" ++ table entries]

/-- The help text of a program that was called by a name. -/
def help (g : Grammar) (calledAs : String) : String :=
  let arguments := g.positional.toList.map fun p => (p.display, p.about)
  let options := (g.options.filter fun s => !s.hidden).map fun s => (spellings s, s.about)
  String.intercalate "\n" ([g.about ++ "\n", "Usage: " ++ g.usage calledAs ++ "\n"] ++
    titled "Commands" g.commands ++ titled "Arguments" arguments ++
    titled "Options" options)

end Grammar

end Options

end BrokerClient
