import BrokerClient.Host.Machine
import BrokerClient.Server

/-!
# State Directories

The directory that keeps what the client remembers about every server: the
cookies of its session and the targets it was seen to offer. All names of
files in it are decided here.

## Main definitions

* `StateDirectory`: The directory.
* `StateDirectory.cookiesPath`, `StateDirectory.inventoryPath`: The files of a server.
* `StateDirectory.ensure`: Makes the directory.
-/

namespace BrokerClient

/-- The directory that keeps what is remembered about the servers. -/
structure StateDirectory where
  path : Path
  deriving DecidableEq, Repr

/-- Why the directory cannot be made. -/
structure StateDirectoryError where
  path : Path
  source : IoError
  deriving DecidableEq, Repr

/-- The wording of an error. -/
def StateDirectoryError.message (e : StateDirectoryError) : String :=
  "failed to prepare state directory '" ++ e.path.shown ++ "': " ++ e.source.message

namespace StateDirectory

/-- The file of a server that holds its cookies. -/
def cookiesPath (d : StateDirectory) (s : Server) : Path :=
  Path.join d.path ("cookies-" ++ s.fileKey ++ ".json" : String)

/-- The file of a server that holds the targets it was seen to offer. -/
def inventoryPath (d : StateDirectory) (s : Server) : Path :=
  Path.join d.path ("targets-" ++ s.fileKey ++ ".json" : String)

/-- The permissions of directories that are made for the state. -/
def mode : Nat := 0o700

/-- Makes the directory and its parents, unless it is there. -/
def ensure (d : StateDirectory) : Action (Except StateDirectoryError Unit) := do
  match ← Action.makeDirectories d.path mode with
  | .ok () => return .ok ()
  | .error e =>
    -- Whatever is there already is taken for the directory.
    if e.kind = .alreadyExists then return .ok () else return .error ⟨d.path, e⟩

end StateDirectory

end BrokerClient
