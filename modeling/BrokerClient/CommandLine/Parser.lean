import BrokerClient.CommandLine.Command
import BrokerClient.CommandLine.Grammar
import BrokerClient.Files.Path
import BrokerClient.Options.Parser

/-!
# Reading the Command Line

What the arguments behind the configuration flags ask for.

## Main definitions

* `CommandLine`: The options and the command.
* `CommandLine.parse`: Reads the arguments, of which the first is the program.
-/

namespace BrokerClient

/-- What an invocation asks for. -/
structure CommandLine where
  debug : Bool
  traces : Bool
  /-- The path of the handoff file, which is empty if none was given with the
      flag. -/
  makeJobserver : Option String
  noMakeJobserver : Bool
  environment : List String
  command : Option Command
  deriving DecidableEq, Repr

namespace CommandLine

open Options (Grammar Matches)

/-- The name that a program was called by: the last component of its path, if
    that is a text. -/
def calledAs? (program : OsText) : Option String := (Path.fileName? program).bind OsText.text?

/-- Reads what follows a command and checks it. -/
def readCommand (calledAs : Option String) (g : Grammar) (arguments : List OsText) :
    Except Options.Error Matches := do
  let called := match calledAs with
    | some name => name ++ " " ++ g.name
    | none => g.name
  g.finish called (← g.read called arguments).progress

/-- The texts among the positional arguments. -/
def positionalTexts (m : Matches) : List String := m.values.filterMap OsText.text?

/-- Reads the command with a name and the arguments behind it. -/
def parseCommand (calledAs : Option String) (name : String) (arguments : List OsText) :
    Except Options.Error Command := do
  if name = "run" then return .run (← readCommand calledAs runGrammar arguments).values
  else if name = "cookies" then
    let m ← readCommand calledAs cookiesGrammar arguments
    return .cookies ((positionalTexts m).headD "") (m.has "cookiejar")
  else if name = "config" then
    let _ ← readCommand calledAs configGrammar arguments
    return .config
  else if name = "servers" then
    let _ ← readCommand calledAs serversGrammar arguments
    return .servers
  else return .logout (positionalTexts (← readCommand calledAs logoutGrammar arguments))

/-- What the options and a command make. -/
def ofMatches (m : Matches) (command : Option Command) : CommandLine where
  debug := m.has "debug"
  traces := m.has "traces"
  makeJobserver := (m.textsOf "make-jobserver").head?
  noMakeJobserver := m.has "no-make-jobserver"
  environment := m.textsOf "environment"
  command := command

/-- Reads the arguments, of which the first is the program. A fault behind the
    command counts before one of the last option in front of it, and before one
    that only the whole of the options shows. -/
def parse (arguments : List OsText) : Except Options.Error CommandLine := do
  let calledAs := arguments.head?.bind calledAs?
  let called := calledAs.getD grammar.name
  let outcome ← grammar.read called (arguments.drop 1)
  let command ← outcome.command.mapM fun c => parseCommand calledAs c.1 c.2
  return ofMatches (← grammar.finish called outcome.progress) command

end CommandLine

end BrokerClient
