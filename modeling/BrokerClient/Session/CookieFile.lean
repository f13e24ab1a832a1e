import BrokerClient.Cookies
import BrokerClient.Host.Machine
import BrokerClient.Json.Parser

/-!
# Cookie Files

The cookies of a server in a file. A file that cannot be used is removed, so
that a broken session is forgotten. A file is written under another name first
and then moved into place, so that no reader sees half of it.

## Main definitions

* `CookieFile.decode`: The cookies in the content of a file.
* `CookieFile.load`: The cookies in a file.
* `CookieFile.remove`: Removes a file.
* `CookieFile.replace`: Writes a file.
-/

namespace BrokerClient

namespace CookieFile

/-- The part of the program that events about sessions name. -/
def logTarget : String := "tcf-cli::session"

/-- Removes a file that cannot be used, with a warning that says why. -/
def discard (path : Path) (reason : String) : Action Unit := do
  Action.log .warn logTarget "discarding unreadable cookies file"
    [("file", path.shown), ("reason", reason)]
  match ← Action.removeFile path with
  | .ok () => pure ()
  | .error e =>
    if !e.isNotFound then
      Action.log .warn logTarget "failed to remove unreadable cookies file"
        [("file", path.shown)] (some e.message)

/-- The cookies in the content of a file, or what is wrong with it. It must be
    an object of texts, and of several for one name the last one counts. -/
def decode (content : List UInt8) : Except Json.Flaw Cookies :=
  (Json.parseTexts content).map KeyedList.ofList

/-- The cookies in the content of a file with nothing wrong. -/
def decode? (content : List UInt8) : Option Cookies := (decode content).toOption

theorem decode?_of_ok {content : List UInt8} {cookies : Cookies}
    (h : decode content = .ok cookies) :
    decode? content = some cookies := by
  rw [decode?, h, Except.toOption]

theorem decode?_of_error {content : List UInt8} {flaw : Json.Flaw}
    (h : decode content = .error flaw) : decode? content = none := by
  rw [decode?, h, Except.toOption]

/-- The cookies in a file. There are none if the file is missing or cannot be
    used. -/
def load (path : Path) : Action Cookies := do
  match ← Action.readFile path with
  | .error e =>
    if !e.isNotFound then discard path e.message
    return []
  | .ok content =>
    match decode content with
    | .ok cookies => return cookies
    | .error flaw =>
      discard path (flaw.message content)
      return []

/-- Removes a file. One that is gone already is fine. -/
def remove (path : Path) : Action (Except IoError Unit) := do
  match ← Action.removeFile path with
  | .ok () =>
    Action.log .debug logTarget "cookies removed" [("file", path.shown)]
    return .ok ()
  | .error e => return if e.isNotFound then .ok () else .error e

/-- The permissions of cookie files. -/
def fileMode : Nat := 0o600

/-- The start of the name under which a file is written first. -/
def temporaryFront (path : Path) : OsText :=
  ((Path.fileName? path).filter fun name => name.text?.isSome).getD "cookies"

/-- Writes the new file at a place, sees to it that it lasts, and moves it to its
    path. -/
def fillAndMove (path : Path) (content : List UInt8) (place : Place) :
    Action (Except IoError Unit) := do
  -- The one request is to bring the file to the disk.
  match ← Action.save place content fileMode 1 with
  | .ok () => Action.renameFile place path
  | .error e => return .error e

/-- Writes a file under another name and moves it into place. If it cannot be
    written or moved, nothing is left behind. -/
def replace (path : Path) (content : List UInt8) : Action (Except IoError Unit) := do
  match Path.parent? path with
  | none =>
    return .error (.reported .notFound "cookies path did not have a parent directory" [])
  | some directory =>
    match ← Action.createTemporary directory (temporaryFront path) .empty fileMode with
    | .error (e, tried) => return .error (Temporary.failure e tried)
    | .ok (temporary, place) =>
      match ← fillAndMove path content place with
      | .ok () => return .ok ()
      | .error e =>
        -- The file under the other name goes away with the attempt.
        Action.dropTemporary temporary
        return .error e

end CookieFile

end BrokerClient
