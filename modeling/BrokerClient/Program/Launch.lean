import BrokerClient.Program.Search
import BrokerClient.Program.Shell

/-!
# Launching Programs

A launcher and a replacer for the programs whose work is known here: the tools
and the shell, told by the names of their files. A program leaves the
environment and the working directory of its parent alone.

## Main definitions

* `Program.start`: Starts a program with its input.
* `Program.launch`: Starts a program without input.
* `Program.replace`: Goes on as another program.
-/

namespace BrokerClient

namespace Program

/-- The names of shells. -/
def shellNames : List String := ["sh", "dash", "bash"]

/-- How many shells may run inside each other. -/
def shellLimit : Nat := 64

/-- Runs an action for a program, which keeps its environment and its working
    directory to itself. -/
def isolated {α : Type} (work : Action α) : Action α := do
  let before ← get
  let result ← work
  modify fun m =>
    { m with environment := before.environment, workDirectory := before.workDirectory }
  return result

/-- Runs the program with the name of a file, if its work is known. A shell
    starts other programs by a given action. -/
def runNamed (start : Shell.Starter) (name : OsText) (input : List UInt8)
    (arguments : List OsText) : Action (Except IoError ExitStatus) := do
  if shellNames.any fun shell => OsText.ofString shell = name then
    return .ok (← isolated (Shell.execute start input arguments))
  else
    match Tool.named? name with
    | some tool => return .ok (.exited (← isolated (tool input arguments)))
    | none => return .error (.system .badFormat)

/-- Starts a program with its input, where so many shells may run inside each
    other. -/
def start : Nat → Shell.Starter
  | 0, _, _, _ => return .error (.system .tryAgain)
  | depth + 1, input, program, arguments => do
    match find (← get) program arguments with
    | .error e => return .error e
    | .ok place => runNamed (start depth) (place.getLast?.getD .empty) input arguments

/-- Starts a program without input. -/
def launch : Launcher := fun program arguments => start shellLimit [] program arguments

/-- Goes on as another program. -/
def replace : Replacer := fun program arguments => do
  let files := (← get).files
  match ← launch program arguments with
  | .error e => return some e
  | .ok _ =>
    modify fun m => { m with replacements := m.replacements ++ [⟨program, arguments, files⟩] }
    return none

end Program

end BrokerClient
