import BrokerClient.Program.Basic
import BrokerClient.Program.Script
import BrokerClient.Program.Tool

/-!
# The Shell

Runs scripts. Words are expanded, some commands are carried out by the shell
itself, and all others are programs, which are started by an action that is left
open here. A script ends with the status of its last command, unless it says
when to end, or a signal ends it.

Only the command line and tests reach the shell, as one of the programs that
they launch.

## Main definitions

* `Shell.State`: What a shell knows.
* `Shell.expand`: The fields that a word stands for.
* `Shell.runCommand`: Runs a simple command.
* `Shell.run`: Runs a script.
* `Shell.execute`: The shell as a program.
-/

namespace BrokerClient

namespace Shell

/-- What a shell knows: its parameters by name, which of them programs get to
    see, its name and arguments, and the status of the last command. -/
structure State where
  parameters : Environment
  exported : List OsText
  name : OsText
  arguments : List OsText
  status : Nat

/-- Work of a shell. -/
abbrev Work := StateT State Action

/-- The number of the process that a shell is. -/
def processNumber : Nat := 2

/-! ## Words -/

/-- The text of a number. -/
def decimal (n : Nat) : OsText := (toString n : String)

/-- The value of a parameter, where arguments stand as one text. -/
def value (s : State) (name : List Char) : OsText :=
  match name with
  | ['$'] => decimal processNumber
  | ['?'] => decimal s.status
  | ['#'] => decimal s.arguments.length
  | ['@'] | ['*'] => ⟨List.intercalate [0x20] (s.arguments.map OsText.bytes)⟩
  | name =>
    match Digits.number? 10 name with
    | some 0 => s.name
    | some n => (s.arguments[n - 1]?).getD .empty
    | none => (s.parameters.get? (OsText.ofChars name)).getD .empty

/-- Whether a parameter is set. -/
def isSet (s : State) (name : List Char) : Bool :=
  match Digits.number? 10 name with
  | some n => n ≤ s.arguments.length
  | none =>
    match name with
    | ['$'] | ['?'] | ['#'] => true
    | ['@'] | ['*'] => !s.arguments.isEmpty
    | name => (s.parameters.get? (OsText.ofChars name)).isSome

/-- The value of a choice. -/
def choose (s : State) (name : List Char) (orEmpty ifSet : Bool) (text : List Char) : OsText :=
  let set := isSet s name && !(orEmpty && (value s name).isEmpty)
  if set = ifSet then OsText.ofChars text
  else if ifSet then .empty
  else value s name

/-- The fields that are complete, and the one that is not. -/
structure Fields where
  complete : List OsText
  current : Option (List UInt8)

namespace Fields

/-- Adds bytes to the field. -/
def add (f : Fields) (bytes : List UInt8) : Fields :=
  { f with current := some (f.current.getD [] ++ bytes) }

/-- Ends the field. -/
def cut (f : Fields) : Fields :=
  match f.current with
  | some bytes => ⟨f.complete ++ [⟨bytes⟩], none⟩
  | none => f

/-- Adds a byte of a value without quotes: blanks end the field. -/
def addUnquoted (f : Fields) (b : UInt8) : Fields :=
  if b = 0x20 || b = 0x09 || b = 0x0A then f.cut else f.add [b]

/-- Adds values as fields of their own. The first one goes on with the field,
    and the last one is not ended. -/
def addSeparate (f : Fields) : List OsText → Fields
  | [] => f
  | [v] => f.add v.bytes
  | v :: vs => addSeparate (f.add v.bytes).cut vs

end Fields

/-- Adds a part of a word. -/
def addPart (s : State) (f : Fields) : Script.Part → Fields
  | .text cs quoted => if cs.isEmpty && !quoted then f else f.add (Utf8.encode cs)
  | .parameter name true =>
    if name = ['@'] then f.addSeparate s.arguments else f.add (value s name).bytes
  | .parameter name false => (value s name).bytes.foldl Fields.addUnquoted f
  | .choice name orEmpty ifSet text true => f.add (choose s name orEmpty ifSet text).bytes
  | .choice name orEmpty ifSet text false =>
    (choose s name orEmpty ifSet text).bytes.foldl Fields.addUnquoted f

/-- Whether a word is nothing but all arguments between quotes. It stands for no
    field if there are none. -/
def isAllArguments (word : Script.Word) : Bool :=
  word.contains (.parameter ['@'] true) &&
    word.all fun part => part = .parameter ['@'] true || part = .text [] true

/-- The fields that a word stands for. -/
def expand (s : State) (word : Script.Word) : List OsText :=
  if isAllArguments word then s.arguments
  else (word.foldl (addPart s) ⟨[], none⟩).cut.complete

/-- The text that a word stands for where it is not split. -/
def expandWhole (s : State) (word : Script.Word) : OsText :=
  ⟨List.intercalate [0x20] ((expand s word).map OsText.bytes)⟩

/-- The name and the value of an assignment. -/
def assignment? (word : Script.Word) : Option (List Char × Script.Word) := do
  let plain := word.takeWhile fun part =>
    match part with
    | .text [c] false => Script.isNameChar c
    | _ => false
  let name := plain.flatMap fun part =>
    match part with
    | .text cs _ => cs
    | _ => []
  match name, word.drop plain.length with
  | c :: _, .text ['='] false :: value => if c.isDigit then none else some (name, value)
  | _, _ => none

/-- A value as a list of parts that are not split. -/
def quoteParts (word : Script.Word) : Script.Word :=
  word.map fun part =>
    match part with
    | .text cs _ => .text cs true
    | .parameter name _ => .parameter (if name = ['@'] then ['*'] else name) true
    | .choice name orEmpty ifSet text _ => .choice name orEmpty ifSet text true

/-- Gives a parameter a value. -/
def assign (name : OsText) (v : OsText) : Work Unit :=
  modify fun s => { s with parameters := s.parameters.set name v }

/-- The variables that programs get to see. -/
def programEnvironment (s : State) : Environment :=
  ⟨s.parameters.bindings.filter fun v => s.exported.contains v.1⟩

/-! ## Commands of the shell itself -/

/-- How the shell goes on behind a command: with a status, or not at all. -/
inductive Progress where
  | status (code : Nat)
  | ended (status : ExitStatus)

/-- The names of signals with their numbers. -/
def signals : List (String × Nat) :=
  [("HUP", 1), ("INT", 2), ("QUIT", 3), ("ILL", 4), ("TRAP", 5), ("ABRT", 6), ("BUS", 7),
    ("FPE", 8), ("KILL", 9), ("USR1", 10), ("SEGV", 11), ("USR2", 12), ("PIPE", 13),
    ("ALRM", 14), ("TERM", 15), ("STKFLT", 16), ("CHLD", 17), ("CONT", 18), ("URG", 23),
    ("XCPU", 24), ("XFSZ", 25), ("VTALRM", 26), ("PROF", 27), ("WINCH", 28), ("POLL", 29),
    ("PWR", 30), ("SYS", 31)]

/-- Signals that do not end a process. -/
def harmlessSignals : List Nat := [0, 17, 18, 23, 28]

/-- The signal that a text names, with its number or with its name. -/
def signal? (cs : List Char) : Option Nat :=
  match Digits.number? 10 cs with
  | some n => if n < 65 then some n else none
  | none =>
    let upper := cs.map Char.toUpper
    let name := if "SIG".toList.isPrefixOf upper then upper.drop 3 else upper
    (signals.find? fun e => e.1.toList = name).map Prod.snd

/-- Sends a signal to a process, of which only the shell itself is known. -/
def kill (arguments : List OsText) : Progress :=
  let send (signal : Option Nat) (target : OsText) : Progress :=
    match signal with
    | some n =>
      if target ≠ decimal processNumber then .status 1
      else if harmlessSignals.contains n then .status 0
      else .ended (.signalled n)
    | none => .status 2
  match arguments with
  | [target] => send (some 15) target
  | [option, name, target] =>
    if option = OsText.ofString "-s" then send (signal? name.shownChars) target else .status 2
  | [option, target] =>
    match option.shownChars with
    | '-' :: name => send (signal? name) target
    | _ => .status 2
  | _ => .status 2

/-- Ends the shell with a code. A code that is no number is an error. -/
def exit (s : State) (arguments : List OsText) : Progress :=
  match arguments with
  | [] => .ended (.exited (s.status % 256))
  | code :: _ =>
    match code.chars?.bind (Digits.number? 10) with
    | some n => .ended (.exited (n % 256))
    | none => .ended (.exited 2)

/-- Lets programs see parameters, and gives some of them values. -/
def exportAll (arguments : List OsText) : Work Unit :=
  for argument in arguments do
    let name : OsText := ⟨argument.bytes.takeWhile (· ≠ 0x3D)⟩
    if name.bytes.length < argument.bytes.length then
      assign name ⟨argument.bytes.drop (name.bytes.length + 1)⟩
    modify fun s => { s with exported := name :: s.exported }

/-- Forgets parameters. -/
def unsetAll (arguments : List OsText) : Work Unit :=
  for name in arguments do
    modify fun s =>
      { s with parameters := s.parameters.unset name, exported := s.exported.filter (· ≠ name) }

/-- Goes to a directory. -/
def changeDirectory (p : Path) : Work Nat := do
  let m ← (getThe Machine : StateM Machine Machine)
  match m.files.locate m.workDirectory p with
  | .ok place =>
    if m.files.isDirectoryAt place then
      (set { m with workDirectory := place } : StateM Machine Unit)
      return 0
    else return 2
  | .error _ => return 2

/-- The tools that the shell carries out itself. -/
def ownTool? (name : String) : Option Tool :=
  match name with
  | ":" => some (Tool.ending 0)
  | "echo" => some (Tool.echo true)
  | "true" | "false" | "printf" | "pwd" | "test" | "[" => Tool.named? name
  | _ => none

/-- Starts a program with its input. -/
abbrev Starter := List UInt8 → OsText → List OsText → Action (Except IoError ExitStatus)

/-- The code of a command that is no program, by the reason for it. -/
def failureCode (e : IoError) : Nat := if e.isNotFound then 127 else 126

/-- Starts a program with the parameters that it gets to see. -/
def startProgram (start : Starter) (input : List UInt8) (program : OsText)
    (arguments : List OsText) : Work Progress := do
  let s ← get
  let m ← (getThe Machine : StateM Machine Machine)
  (set { m with environment := programEnvironment s } : StateM Machine Unit)
  match ← (start input program arguments : StateM Machine _) with
  | .ok (.exited code) => return .status code
  | .ok (.signalled signal) => return .status (128 + signal)
  | .error e => return .status (failureCode e)

/-- Goes on as a program, which never comes back. Without a program the shell
    goes on as it is. -/
def exec (start : Starter) (input : List UInt8) : List OsText → Work Progress
  | [] => return .status 0
  | program :: arguments => do
    let s ← get
    let m ← (getThe Machine : StateM Machine Machine)
    (set { m with environment := programEnvironment s } : StateM Machine Unit)
    match ← (start input program arguments : StateM Machine _) with
    | .ok status => return .ended status
    | .error e => return .ended (.exited (failureCode e))

/-- Runs a command given by its fields. -/
def runFields (start : Starter) (input : List UInt8) : List OsText → Work Progress
  | [] => return .status 0
  | name :: arguments => do
    match name.text? with
    | some "exit" => return exit (← get) arguments
    | some "kill" => return kill arguments
    | some "exec" => exec start input arguments
    | some "export" =>
      exportAll arguments
      return .status 0
    | some "unset" =>
      unsetAll arguments
      return .status 0
    | some "cd" => return .status (← changeDirectory (arguments.headD .empty))
    | some "shift" =>
      modify fun s => { s with arguments := s.arguments.drop 1 }
      return .status 0
    | other =>
      match other.bind ownTool? with
      | some tool => return .status (← (tool input arguments : StateM Machine Nat))
      | none => startProgram start input name arguments

/-! ## Redirections -/

/-- The file that takes everything and keeps nothing. -/
def nowhere : Path := "/dev/null"

/-- Where the output of a command goes: to the output of commands, nowhere, or
    into a file. -/
inductive Destination where
  | passed
  | dropped
  | file (place : Place)
  deriving DecidableEq

/-- Opens a file for output, empty unless output is added to it. -/
def openOutput (p : Path) (append : Bool) : Action (Option Destination) := do
  if p = nowhere then return some .dropped
  else
    let m ← get
    match m.files.read m.workDirectory p, m.files.locate m.workDirectory p with
    | .ok content, .ok place =>
      Action.writeOpened place (if append then content else []) 0o644
      return some (.file place)
    | _, _ =>
      match m.files.create m.workDirectory p [] 0o644 with
      | .ok (files, place) =>
        set { m with files }
        return some (.file place)
      | .error _ => return none

/-- The input of a command, and where its two outputs go. -/
structure Streams where
  input : List UInt8
  output : Destination
  errors : Destination

/-- Opens what a redirection asks for. -/
def redirect (s : State) (streams : Streams) : Script.Redirection → Action (Option Streams)
  | .input word => do
    match ← Action.readFile (expandWhole s word) with
    | .ok input => return some { streams with input }
    | .error _ => return none
  | .output number word append => do
    match ← openOutput (expandWhole s word) append with
    | some d => return some (if number = 2 then { streams with errors := d }
        else { streams with output := d })
    | none => return none
  | .merge number other =>
    let d := if other = 2 then streams.errors else streams.output
    return some (if number = 2 then { streams with errors := d } else { streams with output := d })

/-- Opens what redirections ask for, one after the other. -/
def redirectAll (s : State) (streams : Streams) :
    List Script.Redirection → Action (Option Streams)
  | [] => return some streams
  | r :: rest => do
    match ← redirect s streams r with
    | some streams => redirectAll s streams rest
    | none => return none

/-- Moves what was written behind a length of the output to its
    destination. -/
def deliver (d : Destination) (before : Nat) : Action Unit := do
  let m ← get
  let written := m.commandOutput.drop before
  match d with
  | .passed => pure ()
  | .dropped => set { m with commandOutput := m.commandOutput.take before }
  | .file place =>
    let files := match m.files.node? place with
      | some (.file content mode) => m.files.insert place (.file (content ++ written) mode)
      | _ => m.files
    set { m with commandOutput := m.commandOutput.take before, files }

/-! ## Scripts -/

/-- The assignments in front of a command, and its other words. -/
def splitAssignments : List Script.Word → List (List Char × Script.Word) × List Script.Word
  | [] => ([], [])
  | w :: ws =>
    match assignment? w with
    | some a =>
      let (assignments, words) := splitAssignments ws
      (a :: assignments, words)
    | none => ([], w :: ws)

/-- Runs a command with assignments in front. They stay if there is no command,
    and hold for the command only if there is one. -/
def runAssigned (start : Starter) (input : List UInt8)
    (assignments : List (List Char × Script.Word)) (fields : List OsText) : Work Progress := do
  let before ← get
  for a in assignments do
    let s ← get
    let name := OsText.ofChars a.1
    assign name (expandWhole s (quoteParts a.2))
    if !fields.isEmpty then modify fun s => { s with exported := name :: s.exported }
  let progress ← runFields start input fields
  if !fields.isEmpty && !assignments.isEmpty then
    modify fun s => { s with parameters := before.parameters, exported := before.exported }
  return progress

/-- Runs a simple command. The output for errors goes nowhere, unless it goes
    where the other output goes. -/
def runCommand (start : Starter) (input : List UInt8) (c : Script.Command) : Work Progress := do
  let s ← get
  let (assignments, words) := splitAssignments c.words
  let fields := words.flatMap (expand s)
  match ← (redirectAll s ⟨input, .passed, .dropped⟩ c.redirections : StateM Machine _) with
  | none => return .status 2
  | some streams =>
    let before := (← (getThe Machine : StateM Machine Machine)).commandOutput.length
    let progress ← runAssigned start streams.input assignments fields
    (deliver streams.output before : StateM Machine Unit)
    return progress

/-- Whether a command is run behind a command with a status. -/
def holds (condition : Script.Condition) (status : Nat) : Bool :=
  match condition with
  | .always => true
  | .succeeded => status = 0
  | .failed => status ≠ 0

/-- Runs the commands of a script. -/
def run (start : Starter) (input : List UInt8) : Script → Work ExitStatus
  | [] => return .exited ((← get).status % 256)
  | (condition, command) :: rest => do
    if holds condition (← get).status then
      match ← runCommand start input command with
      | .status code =>
        modify fun s => { s with status := code }
        run start input rest
      | .ended status => return status
    else run start input rest

/-- The script and the name and arguments for it in the arguments of a shell. The
    script is the argument behind an option, a file, or the input. -/
def invocation? (m : Machine) (input : List UInt8) :
    List OsText → Option (OsText × OsText × List OsText)
  | [] => some (⟨input⟩, "sh", [])
  | first :: rest =>
    if first = OsText.ofString "-c" then
      rest.head?.map fun script => (script, (rest.drop 1).headD "sh", rest.drop 2)
    else if first.bytes.head? = some 0x2D then none
    else
      match m.files.read m.workDirectory first with
      | .ok script => some (⟨script⟩, first, rest)
      | .error _ => none

/-- The shell as a program. Arguments without a script and a script that cannot
    be read are errors. -/
def execute (start : Starter) (input : List UInt8) (arguments : List OsText) :
    Action ExitStatus := do
  match invocation? (← get) input arguments with
  | none => return .exited 2
  | some (script, name, rest) =>
    match Script.parse? script.shownChars with
    | none => return .exited 2
    | some commands =>
      let environment := (← get).environment
      let s : State := ⟨environment, environment.bindings.map Prod.fst, name, rest, 0⟩
      return (← (run start input commands).run s).1

end Shell

end BrokerClient
