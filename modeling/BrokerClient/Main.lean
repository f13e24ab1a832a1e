import BrokerClient.Invocation
import BrokerClient.Program.Launch
import BrokerClient.Survey

/-!
# The Command Line

The client as a program. The part of the system that matters is surveyed, the
invocation is carried out on it, and what has changed is carried over to the
system. Programs are those of `Program.launch`, and events are not printed.
-/

namespace BrokerClient

namespace System

/-- The bytes of a file, if there is one. -/
def bytes? (path : String) : IO (Option (List UInt8)) := do
  try return some (← IO.FS.readBinFile path).toList
  catch _ => return none

/-- The parts of a file that zeros end. -/
def zeroEnded (path : String) : IO (List OsText) := do
  let parts := ((← bytes? path).getD []).splitOn 0
  return parts.dropLast.map OsText.mk

/-- The variables of this process. -/
def environment : IO Environment := do
  let parts ← zeroEnded "/proc/self/environ"
  return parts.foldl (fun (e : Environment) v =>
    e.set ⟨v.bytes.takeWhile (· ≠ 0x3D)⟩ ⟨(v.bytes.dropWhile (· ≠ 0x3D)).drop 1⟩)
    Environment.empty

/-- The program and its arguments, byte by byte if the system tells them. -/
def arguments (given : List String) : IO (List OsText) := do
  let known ← zeroEnded "/proc/self/cmdline"
  if known.length = given.length + 1 then return known
  else return OsText.ofString CommandLine.grammar.name :: given.map OsText.ofString

/-- The number of processors. -/
def processors : IO Nat := do
  let text := ((Utf8.decode? ((← bytes? "/proc/cpuinfo").getD [])).getD [])
  let lines := (splitAll '\n' text).filter fun line => "processor".toList.isPrefixOf line
  return max lines.length 1

/-- The machine before anything of its files is known. -/
def bareMachine : IO Machine := do
  let work : Path := (← IO.currentDir).toString
  return {
    files := FileTree.empty
    workDirectory := Survey.placeOf [] work
    environment := ← environment
    accountHome := none
    processors := ← processors
    nextName := ← IO.rand 0 (Nat.pow 62 6 - 1)
    answers := []
    logger := none
    events := []
    launches := []
    replacements := []
    commandOutput := [] }

/-- Looks at a path, and takes note of the file or directory there. The content
    of a program is of no interest. -/
def look (isProgram : Bool) (m : Machine) (p : Path) : IO Machine := do
  match p.text? with
  | none => return m
  | some text =>
    let real ← try pure (some (← IO.FS.realPath text)) catch _ => pure none
    match real with
    | none => return m
    | some real =>
      if ← real.isDir then return Survey.note m p (.directory Survey.assumedMode)
      else if isProgram then
        return if ← real.pathExists then Survey.note m p (.file [] Survey.assumedMode) else m
      else
        match ← bytes? text with
        | some content => return Survey.note m p (.file content Survey.assumedMode)
        | none => return m

/-- How often a survey is repeated at most. -/
def surveyLimit : Nat := 64

/-- Surveys the system until there is nothing new. -/
def survey (words : List OsText) : Nat → List Path → Machine → IO Machine
  | 0, _, m => return m
  | rounds + 1, seen, m => do
    let found := ((Survey.paths m words).flatMap Survey.withParents).eraseDups
    let fresh := found.filter fun p => !seen.contains p
    if fresh.isEmpty then return m
    else survey words rounds (fresh ++ seen) (← fresh.foldlM (look false) m)

/-- The rights of one kind of user in permissions, given the weight of the
    kind. -/
def rights (mode weight : Nat) : IO.AccessRight :=
  let bits := mode / weight % 8
  { read := bits / 4 % 2 = 1, write := bits / 2 % 2 = 1, execution := bits % 2 = 1 }

/-- The rights in permissions. -/
def allRights (mode : Nat) : IO.FileRight :=
  { user := rights mode 64, group := rights mode 8, other := rights mode 1 }

/-- Carries a change over to the system. -/
def carryOver (change : Survey.Change) : IO Unit := do
  match change with
  | .put path (.file content mode) =>
    IO.FS.writeBinFile path.shown ⟨content.toArray⟩
    IO.setAccessRights path.shown (allRights mode)
  | .put path (.directory mode) =>
    IO.FS.createDirAll path.shown
    IO.setAccessRights path.shown (allRights mode)
  | .remove path (.file _ _) => IO.FS.removeFile path.shown
  | .remove path (.directory _) => IO.FS.removeDir path.shown

/-- Runs the client and returns its exit code. -/
def runClient (given : List String) : IO UInt32 := do
  let words ← arguments given
  let known ← survey words surveyLimit [] (← bareMachine)
  let known ← (Survey.programPaths known words).foldlM (look true) known
  let surroundings := Surroundings.standard Program.launch Program.replace
  let (report, after) :=
    (Invocation.run surroundings words Sink.unlimited Sink.unlimited).run known
  (Survey.changes known.files after.files).forM carryOver
  let output ← IO.getStdout
  output.write ⟨(after.commandOutput ++ report.output.written).toArray⟩
  output.flush
  (← IO.getStderr).write ⟨report.errors.written.toArray⟩
  match report.ending with
  | .exited code => return code.toUInt32
  | .replaced => return 0

end System

end BrokerClient

/-- The client as a program. -/
def main (arguments : List String) : IO UInt32 := BrokerClient.System.runClient arguments
