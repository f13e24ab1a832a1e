import BrokerClient.Config.Discovery
import BrokerClient.Config.Layers
import BrokerClient.Toml.Parser

/-!
# Configuration Files

The settings in files. A file may extend another one, which then is a layer
below it, and so on. Of the places where a file may be, the first with a file
that can be loaded counts.

## Main definitions

* `Config.FileFault`: Why a file cannot be loaded.
* `Config.readLayers`: The layers of a file and the files it extends.
* `Config.candidates`: The places where a file may be.
* `Config.BaseFile`: A file that counts, with its layers.
* `Config.loadFirst`: The first file that can be loaded.
-/

namespace BrokerClient

namespace Config

/-- Why a file cannot be loaded. -/
inductive FileFault where
  /-- There is no file at a path, or what it holds makes no sense. -/
  | unusable (path : Path)
  /-- Files that extend each other, the one that came again at the end. -/
  | cycle (paths : List Path)
  deriving DecidableEq, Repr

/-! ## One file -/

/-- The endings of names of files in other formats, which are not read. -/
def foreignExtensions : List String := ["json", "json5", "yaml", "yml"]

/-- Whether the name of a file says that it is in another format. -/
def isForeign (p : Path) : Bool :=
  match Path.extension? p with
  | some ending =>
    foreignExtensions.contains (String.ofList (ending.shownChars.map Char.toLower))
  | none => false

/-- The settings that a file holds. -/
def readLayer? (p : Path) (content : List UInt8) : Option Layer :=
  if isForeign p then none else (Utf8.decode? content).bind Toml.parse?

/-- The setting that names the file to extend. -/
def extendsKey : String := "extends"

/-- The path of the file to extend, if the layer of a file names one. -/
def extendedPath? (p : Path) (layer : Layer) : Except FileFault (Option Path) :=
  match KeyedList.lookup extendsKey layer with
  | none => .ok none
  | some (.string base) =>
    if base.isEmpty then .error (.unusable p)
    else .ok (some (Path.join ((Path.parent? p).getD .empty) base))
  | some _ => .error (.unusable p)

/-- The absolute path of what a path leads to, or the path itself if it leads
    nowhere. -/
def resolved (m : Machine) (p : Path) : Path :=
  match m.files.locate m.workDirectory p with
  | .ok place => Place.path place
  | .error _ => p

/-- The layers of the file at a path and the files that it extends, the lowest
    one first, if the path leads to a file. The files on the way so far are
    given; none of them may come again, so there are at most as many steps as
    there are files. -/
def readLayersFrom (m : Machine) : Nat → List Path → Path →
    Except FileFault (Option (List Layer))
  | 0, _, _ => .ok none
  | steps + 1, before, p =>
    match m.files.read m.workDirectory p with
    | .error _ => .ok none
    | .ok content => do
      -- A file is known by its absolute path, however it was spelled.
      let here := resolved m p
      if before.contains here then .error (.cycle (before ++ [here]))
      else
        match readLayer? here content with
        | none => .error (.unusable here)
        | some layer =>
          match ← extendedPath? here layer with
          | none => .ok (some [layer])
          | some base =>
            match ← readLayersFrom m steps (before ++ [here]) base with
            | some layers => .ok (some (layers ++ [layer]))
            | none => .error (.unusable (resolved m base))

/-- The layers of the file at a path and the files that it extends, the lowest
    one first, if the path leads to a file. -/
def readLayers (m : Machine) (p : Path) : Except FileFault (Option (List Layer)) :=
  readLayersFrom m (m.files.entries.length + 1) [] p

/-! ## The file that counts -/

/-- The two places for a file in a directory for configuration. -/
def placesIn (directory : Path) : List Path :=
  [Path.join (Path.join directory "tcf") Discovery.fileName,
    Path.join directory Discovery.hiddenFileName]

/-- The system's directories for configuration: those of the variable, or if it
    names none, the usual one. -/
def systemDirectories (m : Machine) : List Path :=
  let value := (m.environment.get? "XDG_CONFIG_DIRS").getD .empty
  let named := ((value.bytes.splitOn 0x3A).filter fun d => !d.isEmpty).map OsText.mk
  if named.isEmpty then ["/etc/xdg"] else named

/-- The places where a file may be, unless a flag names one. No place is listed
    twice. -/
def candidates (m : Machine) : List Path :=
  let home := m.environment.get? "HOME"
  let directories := (m.environment.get? "XDG_CONFIG_HOME").toList ++ systemDirectories m ++
    (home.map fun h => Path.join h ".config").toList
  ((m.environment.nonEmpty? Discovery.pathVariable).toList ++ directories.flatMap placesIn ++
    (home.map fun h => Path.join h Discovery.hiddenFileName).toList ++
    [Path.join (Place.path m.workDirectory) Discovery.hiddenFileName]).eraseDups

/-- The file that counts: its path, and its layers with those of the files that
    it extends. -/
structure BaseFile where
  path : Path
  layers : List Layer

/-- The first of some places with a file that can be loaded, if there is one,
    and the faults of the places before it. -/
def loadFirst (m : Machine) : List Path → Option BaseFile × List FileFault
  | [] => (none, [])
  | p :: others =>
    match readLayers m p with
    | .ok (some layers) => (some ⟨p, layers⟩, [])
    | .ok none => loadFirst m others
    | .error fault =>
      let (file, faults) := loadFirst m others
      (file, fault :: faults)

/-- The file at a path that a flag names. -/
def loadNamed (m : Machine) (p : Path) : Except FileFault BaseFile := do
  match ← readLayers m p with
  | some layers => .ok ⟨p, layers⟩
  | none => .error (.unusable p)

end Config

end BrokerClient
