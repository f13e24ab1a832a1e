import BrokerClient.CommandLine.Command
import BrokerClient.Files.Path
import BrokerClient.Recipe.Makefile

/-!
# Relaunching

The command line that make is to start in the second process: the one of this
process, with a flag behind the configuration flags that names the handoff
file. Flags in front of the command that name no handoff file are dropped, so
that they cannot undo it. The words of the command itself are left alone.

## Main definitions

* `Relaunch`: The parts of a command line.
* `Relaunch.commandLine`: The command line for a handoff file.
* `Relaunch.makefile`: The content of a handoff file.
-/

namespace BrokerClient

/-- The parts of a command line: the program, the configuration flags, and the
    rest. -/
structure Relaunch where
  program : OsText
  configArguments : List OsText
  commandArguments : List OsText
  deriving DecidableEq, Repr

namespace Relaunch

/-- The flag that names the handoff file. -/
def flag : String := "--make-jobserver"

/-- The flag with its equals sign. -/
def flagAssign : OsText := flag ++ "="

/-- Whether an argument is the flag without a path. -/
def isEmptyFlag (argument : OsText) : Bool :=
  argument = OsText.ofString flag || argument = flagAssign

/-- A command line from its parts. Flags without a path are dropped in front of
    the first word that is the name of a command. -/
def create (program : OsText) (configArguments commandArguments : List OsText) : Relaunch :=
  let (front, payload) := commandArguments.span fun a => !Command.isName a
  ⟨program, configArguments, front.filter (fun a => !isEmptyFlag a) ++ payload⟩

/-- The flag that names a handoff file. -/
def marker (handoff : Path) : OsText := flagAssign ++ handoff

/-- The words of the command line for a handoff file. -/
def words (r : Relaunch) (handoff : Path) : List OsText :=
  r.program :: r.configArguments ++ marker handoff :: r.commandArguments

/-- The text of an argument, or the argument itself if it has none. -/
def argumentText (argument : OsText) : Except OsText String :=
  match argument.text? with
  | some text => .ok text
  | none => .error argument

/-- The command line for a handoff file as texts, or the first word that is no
    text. -/
def commandLine (r : Relaunch) (handoff : Path) : Except OsText (List String) :=
  (r.words handoff).mapM argumentText

/-- The remark in handoff files. -/
def remark : String := "Generated by tcf; removed by the command it runs."

/-- The target of handoff files. -/
def target : String := "tcf-jobserver-run"

/-- The content of the handoff file at a path, or the first word of the command
    line that is no text. -/
def makefile (r : Relaunch) (handoff : Path) : Except OsText String := do
  let line ← r.commandLine handoff
  return String.ofList (Makefile.text remark.toList target.toList
    (Recipe.quoteWords (line.map String.toList)))

end Relaunch

end BrokerClient
