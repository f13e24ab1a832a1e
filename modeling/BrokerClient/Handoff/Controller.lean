import BrokerClient.Handoff.Relaunch
import BrokerClient.Handoff.Token
import BrokerClient.Program.Basic
import BrokerClient.Text.Splitting

/-!
# Handing Over to Make

A process whose token is unset writes a handoff file and goes on as make, which
starts the command line again under its job limit. The second process holds a
lease on the handoff file and removes it when its command is done. If the
first process cannot go on as make, nobody will read the file, and it is
removed at once.

How a process goes on as another program is left open: `Replacer` is an action
that returns only if that failed.

## Main definitions

* `HandoffError`: Why the handoff failed.
* `Coordination`: How a process goes on.
* `Controller.writeHandoff`: A file that is complete, or none.
* `Controller.coordinate`: The decision, by the token.
* `Controller.releaseLease`: The end of a lease.
-/

namespace BrokerClient

/-- Why a command was not handed over. -/
inductive HandoffError where
  | create (directory path : Path) (source : IoError)
  | argumentNotText (argument : OsText)
  | write (path : Path) (source : IoError)
  | keep (path : Path) (source : IoError)
  | replace (program : String) (source : IoError)
  deriving DecidableEq, Repr

/-- The wording of an error. -/
def HandoffError.message : HandoffError → String
  | create directory path source =>
    "failed to create jobserver handoff file in " ++ directory.quoted ++ ": " ++
      (Temporary.failure source path).message
  | argumentNotText argument =>
    "cannot embed non UTF-8 argument " ++ argument.quoted ++ " in a make recipe"
  | write path source =>
    "failed to write jobserver handoff file " ++ path.quoted ++ ": " ++ source.message
  | keep path source =>
    "failed to keep jobserver handoff file " ++ path.quoted ++ ": " ++ source.message
  | replace program source =>
    "failed to re-execute under '" ++ program ++ "': " ++ source.message

/-- How a process goes on: with its command, with its command and a lease on
    a handoff file, or not at all, because another program has taken its
    place. -/
inductive Coordination where
  | direct
  | leased (handoff : Path)
  | replaced
  deriving DecidableEq, Repr

/-- What the handoff depends on: the program that limits jobs, the limit, and
    the directory for handoff files. -/
structure Controller where
  makeProgram : String
  makeJobs : Nat
  directory : Path
  deriving DecidableEq, Repr

namespace Controller

/-- The part of the program that events about the handoff name. -/
def logTarget : String := "tcf-cli::jobserver"

/-- What stands in front of the free part of the name of a handoff file. -/
def fileFront : String := "tcf-jobserver-"

/-- What stands behind it. -/
def fileBack : String := ".mk"

/-- The permissions of handoff files. -/
def fileMode : Nat := 0o600

/-- The arguments for make: a silent run of the target in the handoff file with
    the job limit. -/
def makeArguments (c : Controller) (handoff : Path) : List OsText :=
  ["-s", "-f", handoff, ("-j" ++ toString c.makeJobs : String), Relaunch.target]

/-- Removes a handoff file. A file that is gone already is fine. -/
def removeHandoff (handoff : Path) : Action (Except IoError Unit) := do
  match ← Action.removeFile handoff with
  | .ok () => return .ok ()
  | .error e => return if e.isNotFound then .ok () else .error e

/-- Puts the makefile into its new file, which is kept after that. -/
def fillFile (r : Relaunch) (path : Path) (place : Place) : Action (Except HandoffError Unit) := do
  match r.makefile path with
  | .error argument => return .error (.argumentNotText argument)
  | .ok text =>
    -- What is written is passed on and brought to the disk, which makes two requests.
    match ← Action.save place (Utf8.encode text.toList) fileMode 2 with
    | .error source => return .error (.write path source)
    | .ok () => return (← Action.request).mapError (.keep path)

/-- Puts the makefile into its new file and returns the path. A file that is not
    kept goes away with the attempt. -/
def completeFile (r : Relaunch) (path : Path) (place : Place) :
    Action (Except HandoffError Path) := do
  match ← fillFile r path place with
  | .ok () => return .ok path
  | .error e =>
    Action.dropTemporary path
    return .error e

/-- Writes the handoff file and returns its path. If the command line is no
    text, or the file cannot be written or kept, nothing is left behind. -/
def writeHandoff (c : Controller) (r : Relaunch) : Action (Except HandoffError Path) := do
  match ← Action.createTemporary c.directory fileFront fileBack fileMode with
  | .error (source, path) => return .error (.create c.directory path source)
  | .ok (path, place) => completeFile r path place

/-- Hands the command line over to make. -/
def delegate (c : Controller) (replacer : Replacer) (r : Relaunch) :
    Action (Except HandoffError Coordination) := do
  match ← c.writeHandoff r with
  | .error e => return .error e
  | .ok handoff =>
    Action.log .info logTarget "re-executing under make jobserver"
      [("program", c.makeProgram), ("jobs", toString c.makeJobs), ("file", handoff.shown)]
    match ← replacer c.makeProgram (c.makeArguments handoff) with
    | none => return .ok .replaced
    | some source =>
      -- No process will ever read the file.
      match ← removeHandoff handoff with
      | .ok () => pure ()
      | .error e =>
        Action.log .warn logTarget "failed to remove unused handoff file"
          [("file", handoff.shown)] (some e.message)
      return .error (.replace c.makeProgram source)

/-- Whether make handed its job limit on to this process. -/
def inheritsJobLimit : Action Bool := do
  match (← Action.environmentVariable "MAKEFLAGS").bind OsText.chars? with
  | some flags =>
    return occursIn "--jobserver-auth=".toList flags || occursIn "--jobserver-fds=".toList flags
  | none => return false

/-- Decides by the token how the process goes on. -/
def coordinate (c : Controller) (replacer : Replacer) (token : HandoffToken) (r : Relaunch) :
    Action (Except HandoffError Coordination) := do
  match token with
  | .unset => c.delegate replacer r
  | .disabled =>
    Action.log .debug logTarget "jobserver delegation disabled"
      [("inherited", toString (← inheritsJobLimit))]
    return .ok .direct
  | .handoff path =>
    Action.log .debug logTarget "running under make jobserver"
      [("file", path.shown), ("inherited", toString (← inheritsJobLimit))]
    return .ok (.leased path)

/-- Ends a lease: the handoff file is removed. -/
def releaseLease (handoff : Path) : Action Unit := do
  match ← removeHandoff handoff with
  | .ok () => Action.log .debug logTarget "handoff file removed" [("file", handoff.shown)]
  | .error e =>
    Action.log .warn logTarget "failed to remove handoff file" [("file", handoff.shown)]
      (some e.message)

end Controller

end BrokerClient
