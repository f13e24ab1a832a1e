import BrokerClient.Text.OsText

/-!
# Paths

A path is operating system text with slashes between its components. The
library never rewrites a path it was given: joining, for instance, keeps `.`,
`..` and double slashes. The components are a view, and two spellings of the
same components are the same path for the purpose of finding duplicates.

## Main definitions

* `Path`: Operating system text used as a path.
* `Path.join`: A path below another one.
* `Path.components`: The view by components.
* `Path.parent?`, `Path.fileName?`, `Path.extension?`: Parts of a path.
-/

namespace BrokerClient

/-- Operating system text used as a path. -/
abbrev Path := OsText

namespace Path

/-- The byte between components. -/
def slash : UInt8 := 0x2F

/-- The byte that stands before a file name's extension. -/
def dot : UInt8 := 0x2E

/-- Whether a path starts at the root. -/
def isAbsolute (p : Path) : Bool := p.bytes.head? = some slash

/-- The path below `base` that `p` names: `p` itself if it is absolute. -/
def join (base p : Path) : Path :=
  if isAbsolute p then p
  else if base.bytes.isEmpty || base.bytes.getLast? = some slash then ⟨base.bytes ++ p.bytes⟩
  else ⟨base.bytes ++ slash :: p.bytes⟩

/-- The byte strings between slashes, empty ones included. -/
def segments : List UInt8 → List (List UInt8)
  | [] => [[]]
  | b :: r =>
    if b = slash then [] :: segments r
    else
      match segments r with
      | s :: rest => (b :: s) :: rest
      | [] => [[b]]

/-- A step of a path. -/
inductive Component where
  | root
  | current
  | up
  | name (text : OsText)
  deriving DecidableEq, Repr

/-- The components of a path. Empty segments count for nothing, and `.` counts
    only at the start of a relative path. -/
def components (p : Path) : List Component :=
  let read (s : List UInt8) : Option Component :=
    if s = [] || s = [dot] then none
    else if s = [dot, dot] then some .up
    else some (.name ⟨s⟩)
  let named := (segments p.bytes).filterMap read
  if isAbsolute p then .root :: named
  else if (segments p.bytes).head? = some [dot] then .current :: named
  else named

/-- Whether two paths have the same components. -/
def same (p q : Path) : Bool := components p = components q

/-- The last component, if it is a name. -/
def fileName? (p : Path) : Option OsText :=
  match (components p).getLast? with
  | some (.name text) => some text
  | _ => none

/-- The spelling of a path up to its last component: everything before that
    component, without the slashes and dots at the end that count for
    nothing. -/
def parent? (p : Path) : Option Path :=
  match (components p).getLast? with
  | none | some .root => none
  | some _ =>
    -- Cut segments that count for nothing, then the last component, then
    -- again segments that count for nothing, from the reversed segments.
    let idle (s : List UInt8) : Bool := s = [] || s = [dot]
    let reversed := (segments p.bytes).reverse
    let keepsDot := (components p).getLast? = some .current
    let cut := if keepsDot then [] else (reversed.dropWhile idle).drop 1
    let rec trim : List (List UInt8) → List (List UInt8)
      | [] => []
      | [s] => [s]
      | s :: r => if idle s then trim r else s :: r
    match (trim cut).reverse with
    | [[]] => if isAbsolute p then some ⟨[slash]⟩ else some .empty
    | kept => some ⟨List.intercalate [slash] kept⟩

/-- What stands behind the last dot of the file name, unless the name starts
    with that dot. -/
def extension? (p : Path) : Option OsText :=
  (fileName? p).bind fun name =>
    if name.bytes = [dot, dot] then none
    else
      let reversed := name.bytes.reverse
      let ending := reversed.takeWhile (· ≠ dot)
      if ending.length + 1 < reversed.length then some ⟨ending.reverse⟩ else none

end Path

end BrokerClient
