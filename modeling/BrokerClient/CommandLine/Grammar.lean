import BrokerClient.Options.Grammar

/-!
# The Grammar of the Command Line

The options and commands of the client. Configuration has flags of its own,
which stand in front of these and are read elsewhere.

## Main definitions

* `CommandLine.grammar`: What stands behind the configuration flags.
* `CommandLine.runGrammar`, `CommandLine.cookiesGrammar`, ...: What follows a command.
-/

namespace BrokerClient

namespace CommandLine

open Options (Spec Positional Grammar requireText)

/-- The option that asks for the help text. -/
def helpOption : Spec where
  long := "help"
  short := some 'h'
  role := .help
  about := "Print help"

/-- The options and commands of the client. -/
def grammar : Grammar where
  name := "tcf"
  about := "Front end for test-target brokers"
  version := "tcf 0.1.0\n"
  options := [
    { long := "debug"
      role := .flag
      about := "Logs at debug level regardless of the configured filter" },
    { long := "traces"
      role := .flag
      about := "Reports failures with their origin and full cause chain" },
    { long := "make-jobserver"
      role := .inlineValue "PATH" .empty
      check := requireText
      hidden := true
      about := "Handoff file written by a parent `tcf` before it re-executed under make" },
    { long := "no-make-jobserver"
      role := .flag
      excludes := some "make-jobserver"
      about := "Runs `run` commands without delegating to a make jobserver" },
    { long := "environment"
      short := some 'e'
      role := .value "KEY[=VALUE]"
      repeatable := true
      check := requireText
      about := "Sets KEY (to VALUE, or `true`) in the environment of spawned processes" },
    helpOption,
    { long := "version"
      short := some 'V'
      role := .version
      about := "Print version" } ]
  commands := [
    ("run", "Runs a build or test command under the make jobserver"),
    ("cookies", "Prints the session cookies stored for a target's broker"),
    ("config", "Prints the resolved configuration"),
    ("servers", "Lists the configured brokers"),
    ("logout", "Drops stored session cookies") ]

/-- The description of a command. -/
def describe (command : String) : String :=
  ((grammar.commands.find? fun c => c.1 = command).map Prod.snd).getD ""

/-- What follows the command that runs a program. -/
def runGrammar : Grammar where
  name := "run"
  about := describe "run"
  options := [helpOption]
  positional := some {
    shown := "COMMAND"
    required := true
    many := true
    takesRest := true
    about := "Program to run followed by its arguments" }

/-- What follows the command that prints cookies. -/
def cookiesGrammar : Grammar where
  name := "cookies"
  about := describe "cookies"
  options := [
    { long := "cookiejar"
      role := .flag
      about := "Prints cookies in Netscape cookie-jar format" },
    helpOption ]
  positional := some {
    shown := "TARGET"
    required := true
    many := false
    takesRest := false
    check := requireText
    about := "Target name, full target id (`server/target`) or server" }

/-- What follows the command that prints the configuration. -/
def configGrammar : Grammar where
  name := "config"
  about := describe "config"
  options := [helpOption]

/-- What follows the command that lists the servers. -/
def serversGrammar : Grammar where
  name := "servers"
  about := describe "servers"
  options := [helpOption]

/-- What follows the command that drops cookies. -/
def logoutGrammar : Grammar where
  name := "logout"
  about := describe "logout"
  options := [helpOption]
  positional := some {
    shown := "SERVER"
    required := false
    many := true
    takesRest := false
    check := requireText
    about := "Servers to log out from; all of them when omitted" }

end CommandLine

end BrokerClient
