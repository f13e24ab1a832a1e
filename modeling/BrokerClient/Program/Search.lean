import BrokerClient.Program.Basic

/-!
# Searching for Programs

The file of a program. A name with a slash is the path of the file. Any other
name is looked up in the directories of `PATH`, and the first one that has a
file which may be executed counts. Files that may not be executed are passed
over, but if there is no other one, they are the reason that is given.

## Main definitions

* `Program.executable`: The file at a path, if it may be executed.
* `Program.search`: The file of a name in directories.
* `Program.find`: The file of a program.
-/

namespace BrokerClient

namespace Program

/-- Whether permissions let anybody execute a file. -/
def isExecutableMode (mode : Nat) : Bool := [1, 8, 64].any fun weight => mode / weight % 2 ≠ 0

/-- The place of the file at a path, if it may be executed. -/
def executable (m : Machine) (p : Path) : Except IoError Place := do
  let place ← m.files.locate m.workDirectory p
  match m.files.node? place with
  | some (.file _ mode) =>
    if isExecutableMode mode then .ok place else .error (.system .accessDenied)
  | _ => .error (.system .accessDenied)

/-- The directories to search if `PATH` is not set. -/
def defaultPath : OsText := "/bin:/usr/bin"

/-- The directories to search. An empty one is the working directory. -/
def searchDirectories (m : Machine) : List Path :=
  let value := (m.environment.get? "PATH").getD defaultPath
  (value.bytes.splitOn 0x3A).map OsText.mk

/-- Whether an error says that a file is missing or may not be executed, so that
    the search goes on. -/
def isPassedOver (e : IoError) : Bool :=
  e = .system .noEntry || e = .system .notDirectory || e = .system .accessDenied

/-- The file of a name in the first of some directories that has it. Without
    one, the error is the first refusal, if there was one, and else the last
    error. -/
def search (m : Machine) (name : OsText) (refusal : Option IoError) (last : IoError) :
    List Path → Except IoError Place
  | [] => .error (refusal.getD last)
  | directory :: others =>
    match executable m (Path.join directory name) with
    | .ok place => .ok place
    | .error e =>
      if !isPassedOver e then .error e
      else
        -- A refusal counts more than a file that is missing elsewhere.
        let refusal := if e = .system .accessDenied then some e else refusal
        search m name refusal e others

/-- The file of a program that is to be started with arguments. -/
def find (m : Machine) (program : OsText) (arguments : List OsText) : Except IoError Place :=
  if (program :: arguments).any OsText.hasNul then .error .nulInCommand
  else if program.isEmpty then .error (.system .noEntry)
  else if program.bytes.contains Path.slash then executable m program
  else search m program none (.system .noEntry) (searchDirectories m)

end Program

end BrokerClient
