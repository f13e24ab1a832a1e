import BrokerClient.Files.Errno
import BrokerClient.Files.Path

/-!
# File Trees

The files and directories of a machine as a value. A place is the list of names
that lead to a node from the root, so a tree is a finite map from places to
nodes, and `node?` is its view.

Paths are looked up name by name from the root or from the working directory.
Every name but the last must be a directory, `..` steps back to the parent, and
there are no links. Errors are those of the operating system, in its order: a
name is looked up only after everything before it was found.

Permissions are recorded, but never enforced. So a file that exists can always
be read, replaced and removed, and a directory always takes new entries; an
operation by path fails only because of what is or is not at the places on the
way.

## Main definitions

* `Place`: The names from the root to a node.
* `Node`: A file with its content, or a directory, with their permissions.
* `FileTree`: The nodes by place.
* `FileTree.locate`: The place of an existing node.
* `FileTree.target`: The place a path gives to a node that may not exist.
* `FileTree.read`, `FileTree.create`, `FileTree.remove`, `FileTree.makeDirectory`,
  `FileTree.makeDirectories`, `FileTree.rename`: Operations by path.

## Theorems

* `FileTree.node?_insert`, `FileTree.node?_erase`: What the view shows after a
  change.
-/

namespace BrokerClient

/-- The names from the root to a node. -/
abbrev Place := List OsText

namespace Place

/-- The absolute path of a place. -/
def path (p : Place) : Path :=
  if p.isEmpty then ⟨[Path.slash]⟩ else ⟨p.flatMap fun name => Path.slash :: name.bytes⟩

end Place

/-- A file or a directory, with its permissions. -/
inductive Node where
  | file (content : List UInt8) (mode : Nat)
  | directory (mode : Nat)
  deriving DecidableEq, Repr

/-- The nodes of a machine by their places. The root is a directory without an
    entry of its own. -/
structure FileTree where
  entries : List (Place × Node)
  deriving DecidableEq, Inhabited

namespace FileTree

/-- The tree with nothing below its root. -/
def empty : FileTree := ⟨[]⟩

/-- The node at a place. -/
def node? (t : FileTree) (place : Place) : Option Node :=
  if place.isEmpty then some (.directory 0o755)
  else (t.entries.find? fun e => e.1 = place).map Prod.snd

/-- Whether a directory is at a place. -/
def isDirectoryAt (t : FileTree) (place : Place) : Bool :=
  match t.node? place with
  | some (.directory _) => true
  | _ => false

/-- The tree without the node at a place. -/
def erase (t : FileTree) (place : Place) : FileTree :=
  ⟨t.entries.filter fun e => e.1 ≠ place⟩

/-- The tree with a node at a place. -/
def insert (t : FileTree) (place : Place) (node : Node) : FileTree :=
  ⟨(place, node) :: (t.erase place).entries⟩

theorem node?_insert (t : FileTree) (place p : Place) (node : Node) (h : p ≠ []) :
    (t.insert place node).node? p = if p = place then some node else t.node? p := by
  have hne : p.isEmpty = false := by simpa using h
  simp only [node?, insert, erase, hne, Bool.false_eq_true, if_false, List.find?_cons]
  by_cases hp : p = place
  · simp [hp]
  · have : ¬ place = p := fun h => hp h.symm
    simp only [this, decide_false, hp, if_false, List.find?_filter]
    congr 2
    funext e
    by_cases he : e.1 = p <;> simp [he, hp]

theorem node?_erase (t : FileTree) (place p : Place) (h : p ≠ []) :
    (t.erase place).node? p = if p = place then none else t.node? p := by
  have hne : p.isEmpty = false := by simpa using h
  simp only [node?, erase, hne, Bool.false_eq_true, if_false, List.find?_filter]
  by_cases hp : p = place
  · simp [hp]
  · simp only [hp, if_false]
    congr 2
    funext e
    by_cases he : e.1 = p <;> simp [he, hp]

/-! ## Looking up paths -/

/-- The longest name that a directory can hold. -/
def nameLimit : Nat := 255

/-- Paths must be shorter than this. -/
def pathLimit : Nat := 4096

/-- Follows the segments of a path from a place. Every segment needs the place
    reached so far to be a directory. -/
def follow (t : FileTree) : Place → List (List UInt8) → Except Errno Place
  | here, [] => .ok here
  | here, s :: rest =>
    -- Even an empty segment asks for a directory.
    if !t.isDirectoryAt here then .error .notDirectory
    else if s = [] || s = [Path.dot] then follow t here rest
    else if s = [Path.dot, Path.dot] then follow t here.dropLast rest
    else if nameLimit < s.length then .error .nameTooLong
    else
      match t.node? (here ++ [⟨s⟩]) with
      | none => .error .noEntry
      | some _ => follow t (here ++ [⟨s⟩]) rest

/-- Refuses the paths that are never looked up. -/
def checkPath (p : Path) : Except IoError Unit :=
  if p.hasNul then .error .nulInFileName
  else if p.bytes.isEmpty then .error (.system .noEntry)
  else if pathLimit ≤ p.bytes.length then .error (.system .nameTooLong)
  else .ok ()

/-- The place where the lookup of a path starts. -/
def start (workDirectory : Place) (p : Path) : Place :=
  if Path.isAbsolute p then [] else workDirectory

/-- The place of the node that a path leads to. -/
def locate (t : FileTree) (workDirectory : Place) (p : Path) : Except IoError Place := do
  checkPath p
  (t.follow (start workDirectory p) (Path.segments p.bytes)).mapError .system

/-- The node that a path leads to. -/
def stat? (t : FileTree) (workDirectory : Place) (p : Path) : Option Node :=
  match t.locate workDirectory p with
  | .ok place => t.node? place
  | .error _ => none

/-- Whether a path leads to anything. -/
def pathExists (t : FileTree) (workDirectory : Place) (p : Path) : Bool :=
  (t.stat? workDirectory p).isSome

/-- Whether a path leads to a file. -/
def isFile (t : FileTree) (workDirectory : Place) (p : Path) : Bool :=
  match t.stat? workDirectory p with
  | some (.file _ _) => true
  | _ => false

/-- Whether a path leads to a directory. -/
def isDirectory (t : FileTree) (workDirectory : Place) (p : Path) : Bool :=
  match t.stat? workDirectory p with
  | some (.directory _) => true
  | _ => false

/-- What the last segment of a path names: an entry of a directory, perhaps
    with slashes behind it that ask for a directory, or a directory itself. -/
inductive Target where
  | entry (directory : Place) (name : OsText) (slashed : Bool)
  | directory (place : Place)

/-- The directory that would hold the last name of a path. The name itself is
    not looked up. -/
def target (t : FileTree) (workDirectory : Place) (p : Path) : Except IoError Target := do
  checkPath p
  let reversed := (Path.segments p.bytes).reverse
  let slashed := reversed.head? = some []
  let here := start workDirectory p
  match reversed.dropWhile (· = []) with
  | [] => .ok (.directory [])
  | last :: before =>
    let directory ← (t.follow here before.reverse).mapError .system
    if !t.isDirectoryAt directory then .error (.system .notDirectory)
    else if last = [Path.dot] then .ok (.directory directory)
    else if last = [Path.dot, Path.dot] then .ok (.directory directory.dropLast)
    else if nameLimit < last.length then .error (.system .nameTooLong)
    else .ok (.entry directory ⟨last⟩ slashed)

/-! ## Operations -/

/-- The content of the file at a path. -/
def read (t : FileTree) (workDirectory : Place) (p : Path) : Except IoError (List UInt8) := do
  match t.node? (← t.locate workDirectory p) with
  | some (.file content _) => .ok content
  | some (.directory _) => .error (.system .isDirectory)
  | none => .error (.system .noEntry)

/-- The tree with a new file at a path, which must not exist, and the place of
    the file. -/
def create (t : FileTree) (workDirectory : Place) (p : Path) (content : List UInt8)
    (mode : Nat) : Except IoError (FileTree × Place) := do
  match ← t.target workDirectory p with
  | .directory _ => .error (.system .alreadyExists)
  | .entry directory name slashed =>
    let place := directory ++ [name]
    match t.node? place with
    | some _ => .error (.system .alreadyExists)
    | none =>
      if slashed then .error (.system .isDirectory)
      else .ok (t.insert place (.file content mode), place)

/-- The tree without the file at a path. -/
def remove (t : FileTree) (workDirectory : Place) (p : Path) : Except IoError FileTree := do
  match ← t.target workDirectory p with
  | .directory _ => .error (.system .isDirectory)
  | .entry directory name slashed =>
    let place := directory ++ [name]
    match t.node? place with
    | none => .error (.system .noEntry)
    | some (.directory _) => .error (.system .isDirectory)
    | some (.file _ _) =>
      if slashed then .error (.system .notDirectory) else .ok (t.erase place)

/-- The tree with a new directory at a path, which must not exist. -/
def makeDirectory (t : FileTree) (workDirectory : Place) (p : Path) (mode : Nat) :
    Except IoError FileTree := do
  match ← t.target workDirectory p with
  | .directory _ => .error (.system .alreadyExists)
  | .entry directory name _ =>
    let place := directory ++ [name]
    match t.node? place with
    | some _ => .error (.system .alreadyExists)
    | none => .ok (t.insert place (.directory mode))

/-- A path and its parents, from the path upwards, up to the empty path. The
    bound is reached by no path, because parents are shorter. -/
def ancestors (p : Path) : List Path :=
  go p.bytes.length p
where
  /-- At most `n` parents. -/
  go : Nat → Path → List Path
    | 0, p => [p]
    | n + 1, p =>
      match Path.parent? p with
      | some parent => p :: go n parent
      | none => [p]

/-- The tree after the attempt to make a directory at a path. One that is there
    already is fine. -/
def makeOrFind (t : FileTree) (workDirectory : Place) (mode : Nat) (p : Path) :
    FileTree × Except IoError Unit :=
  match t.makeDirectory workDirectory p mode with
  | .ok made => (made, .ok ())
  | .error e => (t, if t.isDirectory workDirectory p then .ok () else .error e)

/-- Makes the directory at the head of a list of ancestors, after the others
    if one of them is missing. What was made stays, also where something further
    down cannot be made. -/
def makeFrom (t : FileTree) (workDirectory : Place) (mode : Nat) :
    List Path → FileTree × Except IoError Unit
  | [] => (t, .error (.reported .uncategorized "failed to create whole tree" []))
  | p :: parents =>
    if p.bytes.isEmpty then (t, .ok ())
    else
      match t.makeDirectory workDirectory p mode with
      | .ok made => (made, .ok ())
      | .error e =>
        if e.isNotFound then
          -- Only a missing parent can be helped.
          match makeFrom t workDirectory mode parents with
          | (t, .ok ()) => t.makeOrFind workDirectory mode p
          | (t, .error e) => (t, .error e)
        else t.makeOrFind workDirectory mode p

/-- The tree after the attempt to make a directory at a path and at every parent
    of it, and whether there is one. -/
def makeDirectories (t : FileTree) (workDirectory : Place) (p : Path) (mode : Nat) :
    FileTree × Except IoError Unit :=
  t.makeFrom workDirectory mode (ancestors p)

/-- The tree with the file at a place moved to a path, where it takes the
    place of a file. -/
def rename (t : FileTree) (workDirectory : Place) (source : Place) (p : Path) :
    Except IoError FileTree := do
  match t.node? source with
  | some (.file content mode) =>
    match ← t.target workDirectory p with
    | .directory _ => .error (.system .busy)
    | .entry directory name slashed =>
      let place := directory ++ [name]
      match t.node? place with
      | some (.directory _) => .error (.system .isDirectory)
      | _ =>
        if slashed then .error (.system .notDirectory)
        else .ok ((t.erase source).insert place (.file content mode))
  | _ => .error (.system .noEntry)

/-- The nodes below a place, each with the names that lead to it from there. -/
def below (t : FileTree) (place : Place) : List (Place × Node) :=
  t.entries.filterMap fun e =>
    if e.1.take place.length = place && place.length < e.1.length then
      some (e.1.drop place.length, e.2)
    else none

/-- The tree without a node and everything below it. -/
def eraseAll (t : FileTree) (place : Place) : FileTree :=
  ⟨t.entries.filter fun e => e.1.take place.length ≠ place⟩

end FileTree

end BrokerClient
