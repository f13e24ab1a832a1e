import BrokerClient.CommandLine.ConfigArguments
import BrokerClient.CommandLine.Parser
import BrokerClient.Config.Loading
import BrokerClient.Program.Search

/-!
# Surveys

An invocation works on a machine that is a value, so the part of a real system
that it may look at has to be found first. A survey lists the paths that
matter, as far as that can be told from what is known of the machine: the
places of configuration files, the files that those extend, and, once a
configuration can be loaded, the files of the state. A survey is repeated with
what it has brought to light until it brings nothing new.

## Main definitions

* `Survey.paths`: The paths of files and directories that matter.
* `Survey.programPaths`: The paths where a program may be.
* `Survey.note`: Takes note of what is at a path.
* `Survey.changes`: What has to be done to a system after an invocation.
-/

namespace BrokerClient

namespace Survey

/-! ## Paths that matter -/

/-- The file that a configuration file extends. -/
def base? (m : Machine) (p : Path) : Option Path := do
  let content ← (m.files.read m.workDirectory p).toOption
  let here := Config.resolved m p
  let layer ← Config.readLayer? here content
  (Config.extendedPath? here layer).toOption.join

/-- A configuration file and up to so many files that it builds on. -/
def chain (m : Machine) : Nat → Path → List Path
  | 0, p => [p]
  | steps + 1, p =>
    p :: match base? m p with
      | some base => chain m steps base
      | none => []

/-- The files of the state directory of a configuration. -/
def statePaths (c : Config) : List Path :=
  c.stateDirectory.path :: c.servers.flatMap fun s =>
    [c.stateDirectory.cookiesPath s, c.stateDirectory.inventoryPath s]

/-- The words that a command line runs. -/
def runWords (arguments : List OsText) : List OsText :=
  match CommandLine.parse (ConfigArguments.split arguments).withoutConfig with
  | .ok line =>
    match line.command with
    | some (.run words) => words
    | _ => []
  | .error _ => []

/-- The handoff file that a command line names. -/
def handoff? (arguments : List OsText) : Option Path :=
  match CommandLine.parse (ConfigArguments.split arguments).withoutConfig with
  | .ok line => line.makeJobserver.map OsText.ofString
  | .error _ => none

/-- The paths of files and directories that matter to an invocation. -/
def paths (m : Machine) (arguments : List OsText) : List Path :=
  let parts := ConfigArguments.split arguments
  let places := Discovery.candidates m parts.configArguments ++ Config.candidates m
  let state := match Config.load m parts.configArguments with
    | .ok config => statePaths config
    | .error _ => []
  places.flatMap (chain m (m.files.entries.length + 1)) ++ state ++
    Directories.temporary m :: (handoff? arguments).toList ++ (runWords arguments).drop 1

/-- The paths where the program of an invocation may be. -/
def programPaths (m : Machine) (arguments : List OsText) : List Path :=
  match (runWords arguments).head? with
  | none => []
  | some program =>
    if program.bytes.contains Path.slash then [program]
    else (Program.searchDirectories m).map fun directory => Path.join directory program

/-! ## What is there -/

/-- The place of a path, if no link is on the way. -/
def placeOf (workDirectory : Place) (p : Path) : Place :=
  (Path.components p).foldl step (if Path.isAbsolute p then [] else workDirectory)
where
  /-- Follows one component of the path. -/
  step (here : Place) : Path.Component → Place
    | .root => []
    | .current => here
    | .up => here.dropLast
    | .name text => here ++ [text]

/-- The permissions that are assumed for what is found. -/
def assumedMode : Nat := 0o755

/-- Takes note of what is at a path. The places above it are directories. -/
def note (m : Machine) (p : Path) (node : Node) : Machine :=
  let place := placeOf m.workDirectory p
  let files := (List.range place.length).foldl (fun (t : FileTree) n =>
    if (t.node? (place.take n)).isSome then t
    else t.insert (place.take n) (.directory assumedMode)) m.files
  { m with files := files.insert place node }

/-- A path with the paths of the directories above it. -/
def withParents (p : Path) : List Path :=
  (FileTree.ancestors p).filter fun q => !q.bytes.isEmpty

/-! ## What has changed -/

/-- Something that is done to a system: a node is put at a path, in place of
    what is there, or the node at a path is removed. -/
inductive Change where
  | put (path : Path) (node : Node)
  | remove (path : Path) (node : Node)
  deriving DecidableEq, Repr

/-- The entries of a tree that another one does not have, those nearest to the
    root first. -/
def entriesBeside (t other : FileTree) : List (Place × Node) :=
  (t.entries.filter fun e => other.node? e.1 ≠ some e.2).mergeSort fun a b =>
    a.1.length ≤ b.1.length

/-- What makes a tree out of another one. Places that are gone are removed
    first, the deepest ones before the others. -/
def changes (before after : FileTree) : List Change :=
  let gone := (entriesBeside before after).filter fun e => (after.node? e.1).isNone
  (gone.reverse.map fun e => .remove (Place.path e.1) e.2) ++
    (entriesBeside after before).map fun e => .put (Place.path e.1) e.2

end Survey

end BrokerClient
