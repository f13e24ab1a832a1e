import BrokerClient.Files.Tree
import BrokerClient.Host.Environment
import BrokerClient.Log.Event
import BrokerClient.Log.Logger

/-!
# The Machine

Everything outside the program that it can see or change: files, working
directory, environment, the events it has logged, and what it has asked the
system to run. Work on the machine is a state action, so that what an
invocation leaves behind is a value.

Commands that are launched and the program that replaces this one are recorded
in the order of the requests. A replacement is recorded with the files as they
were at that moment.

What the system makes of operations by path follows from the files. Whether it
carries out a request on a file that is open does not: a disk may be full or
broken. So the machine holds the answers to all such requests from the start,
and a theorem about every machine is one about every way in which they may be
refused.

## Main definitions

* `Refusal`: What the system answers to a request that it does not carry out.
* `Machine`: The state.
* `Action`: A computation on the machine.
* `Action.log`: Records an event.
* `Action.readFile`, `Action.removeFile`, ...: File operations by path, relative to the
  working directory.
* `Action.createTemporary`: A new empty file under a name that was free.
* `Action.save`: Writes an open file and sees to it that the content lasts.
-/

namespace BrokerClient

/-- A request to go on as another program. -/
structure Replacement where
  program : OsText
  arguments : List OsText
  files : FileTree
  deriving DecidableEq, Inhabited

/-- What comes back from a request on an open file that is not carried out: how
    many bytes had been taken by then, if some were to be written, and the
    error as it is reported, which may name the file. -/
structure Refusal where
  taken : Nat
  error : IoError
  deriving DecidableEq, Repr

/-- What a program can see and change. -/
structure Machine where
  files : FileTree
  workDirectory : Place
  environment : Environment
  /-- The home directory of the account, for a process without `HOME`. -/
  accountHome : Option Path
  /-- How many processors there are. -/
  processors : Nat
  /-- Where the search for the next temporary name begins. -/
  nextName : Nat
  /-- Which of the next requests on open files the system refuses, in their
      order. It carries out the others, and all behind the end of the list. -/
  answers : List (Option Refusal)
  /-- What prints events, once that is settled. -/
  logger : Option Log.Logger
  events : List Log.Event
  launches : List (List OsText)
  replacements : List Replacement
  /-- What launched commands wrote to their standard output. -/
  commandOutput : List UInt8
  deriving Inhabited

/-- A computation that may use and change the machine. -/
abbrev Action := StateM Machine

namespace Action

/-- Records an event, perhaps with the error that it reports. -/
def log (level : Log.Level) (target message : String) (fields : List (String × String))
    (error : Option String := none) : Action Unit :=
  modify fun m => { m with events := m.events ++ [⟨level, target, message, fields, error⟩] }

/-- The value of an environment variable. -/
def environmentVariable (name : String) : Action (Option OsText) :=
  return (← get).environment.get? name

/-- Runs a change of the files that may fail, and keeps the files if it
    does. -/
def changeFiles (change : FileTree → Place → Except IoError FileTree) :
    Action (Except IoError Unit) := do
  let m ← get
  match change m.files m.workDirectory with
  | .ok files =>
    set { m with files }
    return .ok ()
  | .error e => return .error e

/-- The content of a file. -/
def readFile (p : Path) : Action (Except IoError (List UInt8)) := do
  let m ← get
  return m.files.read m.workDirectory p

/-- Removes a file. -/
def removeFile (p : Path) : Action (Except IoError Unit) :=
  changeFiles fun files work => files.remove work p

/-- Makes a directory and its parents. Parents that were made stay if the
    directory cannot be made. -/
def makeDirectories (p : Path) (mode : Nat) : Action (Except IoError Unit) := do
  let m ← get
  let (files, made) := m.files.makeDirectories m.workDirectory p mode
  set { m with files }
  return made

/-- Moves the file at a place to a path. -/
def renameFile (source : Place) (p : Path) : Action (Except IoError Unit) :=
  changeFiles fun files work => files.rename work source p

/-- Whether a path leads to a file. -/
def isFile (p : Path) : Action Bool := do
  let m ← get
  return m.files.isFile m.workDirectory p

end Action

/-! ## Temporary files -/

namespace Temporary

/-- The letters and digits that temporary names are made of. -/
def alphabet : List Char :=
  "0123456789ABCDEFGHIJKLMNOPQRSTUVWXYZabcdefghijklmnopqrstuvwxyz".toList

/-- How many letters and digits a temporary name has between its fixed
    ends. -/
def letters : Nat := 6

/-- The `n`-th way of writing so many letters and digits. -/
def word : Nat → Nat → List Char
  | 0, _ => []
  | k + 1, n => word k (n / 62) ++ [alphabet.getD (n % 62) '0']

/-- The `n`-th temporary name with the given ends. -/
def name (front back : OsText) (n : Nat) : OsText :=
  front ++ OsText.ofChars (word letters n) ++ back

/-- The absolute directory that temporary files of a directory go to. -/
def directory (workDirectory : Place) (dir : Path) : Path :=
  if Path.isAbsolute dir then dir else Path.join (Place.path workDirectory) dir

/-- The error of an attempt to create a file, as it is reported: with the path
    that was tried. -/
def failure (e : IoError) (p : Path) : IoError :=
  .reported e.kind (e.message ++ " at path " ++ p.quoted) e.causes

/-- Tries one name after the other, up to a number of them, until one was
    free. The new file is empty. -/
def tryNames (files : FileTree) (workDirectory : Place) (dir : Path) (front back : OsText)
    (mode : Nat) : Nat → Nat → Except (IoError × Path) (FileTree × Path × Place)
  | 0, n => .error (.system .alreadyExists, Path.join dir (name front back n))
  | tries + 1, n =>
    let p := Path.join dir (name front back n)
    match files.create workDirectory p [] mode with
    | .ok (files, place) => .ok (files, p, place)
    | .error e =>
      -- Another name helps only if this one was taken.
      if e.kind = .alreadyExists then tryNames files workDirectory dir front back mode tries (n + 1)
      else .error (e, p)

end Temporary

namespace Action

/-- Creates an empty file in a directory under a name with the given ends that
    was free. There are more names than files, so a free one is found before
    they run out. Returns the path and the place of the file, or the error with
    the path that was tried. -/
def createTemporary (dir : Path) (front back : OsText) (mode : Nat) :
    Action (Except (IoError × Path) (Path × Place)) := do
  let m ← get
  let dir := Temporary.directory m.workDirectory dir
  match Temporary.tryNames m.files m.workDirectory dir front back mode
      (m.files.entries.length + 1) m.nextName with
  | .ok (files, p, place) =>
    set { m with files, nextName := m.nextName + 1 }
    return .ok (p, place)
  | .error e => return .error e

/-- Takes a temporary file away that is of no use any more. If that cannot be
    done, the file stays. -/
def dropTemporary (p : Path) : Action Unit := do
  let _ ← removeFile p

/-! ## Open files -/

/-- The answer to a request on an open file: the refusal, if there is one. -/
def takeAnswer : Action (Option Refusal) := do
  let m ← get
  set { m with answers := m.answers.tail }
  return m.answers.head?.join

/-- Gives an open file its content, given its place and permissions. -/
def writeOpened (place : Place) (content : List UInt8) (mode : Nat) : Action Unit :=
  modify fun m => { m with files := m.files.insert place (.file content mode) }

/-- Writes all of a content to an open file that is empty. If the system refuses
    to go on, what it had taken by then is in the file. -/
def writeAll (place : Place) (content : List UInt8) (mode : Nat) :
    Action (Except IoError Unit) := do
  match ← takeAnswer with
  | none =>
    writeOpened place content mode
    return .ok ()
  | some refusal =>
    writeOpened place (content.take refusal.taken) mode
    return .error refusal.error

/-- Asks for something about open files that does not show in them: that bytes
    held back are passed on, that they are brought to the disk, or that a
    temporary file is kept. -/
def request : Action (Except IoError Unit) := do
  match ← takeAnswer with
  | none => return .ok ()
  | some refusal => return .error refusal.error

/-- So many requests, one after the other, up to the first that is refused. -/
def requests : Nat → Action (Except IoError Unit)
  | 0 => return .ok ()
  | n + 1 => do
    match ← request with
    | .ok () => requests n
    | .error e => return .error e

/-- Writes all of a content to an open file that is empty, and then makes so many
    requests about it. -/
def save (place : Place) (content : List UInt8) (mode n : Nat) : Action (Except IoError Unit) := do
  match ← writeAll place content mode with
  | .ok () => requests n
  | .error e => return .error e

end Action

end BrokerClient
