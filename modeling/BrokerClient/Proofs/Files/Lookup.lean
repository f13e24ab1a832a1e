import BrokerClient.Files.Tree
import BrokerClient.Proofs.Control
import BrokerClient.Proofs.Files.Segments

/-!
# Looking Up Paths

What a change of a tree means for the lookup of paths, and what a removal
undoes. The way to an entry of a directory leads through directories only. So a
path leads to the same entry as long as no directory is lost
(`LeadsTo.of_directories`), whether a file appears, changes or goes away, and
whether there is a node at the entry or not.

Creating a file at a free place and removing it again therefore gives back the
tree itself, entry by entry, and not only one that looks the same. Whatever was
written into the file in between is gone with it.

## Main definitions

* `FileTree.KeepsDirectories`: A tree has all the directories of another one.
* `FileTree.next`: Where one segment leads.
* `FileTree.LeadsTo`: A path leads to an entry of a directory, with or without a node.

## Theorems

* `FileTree.erase_insert`: Without a node at a free place the tree is what it was.
* `FileTree.follow_cons`, `FileTree.follow_append`: Segments are followed one after the other.
* `FileTree.follow_of_directories`: A way to a directory is found wherever its directories are.
* `FileTree.LeadsTo.of_directories`: So is the way to an entry.
* `FileTree.exists_leadsTo`: What a path with an entry as its target is made of.
* `FileTree.LeadsTo.locate`: An entry is found if there is a node at its place.
* `FileTree.LeadsTo.remove_insert`: A new file can be removed by its path, and nothing is left.
* `FileTree.exists_of_create`, `FileTree.exists_of_remove`, `FileTree.exists_of_rename`: Where
  files are created, removed and moved to.
* `FileTree.read_of_create_rename`: A new file is found where it was moved to.
* `FileTree.remove_of_create`: A new file that is removed leaves nothing behind.
* `FileTree.LeadsTo.of_join`: A name in a directory leads to an entry of that directory.
-/

namespace BrokerClient

namespace FileTree

/-! ## Changes -/

theorem erase_eq_self {t : FileTree} {place : Place} (hne : place ≠ [])
    (h : t.node? place = none) : t.erase place = t := by
  unfold node? at h
  rw [if_neg (by rw [List.isEmpty_iff]; exact hne), Option.map_eq_none_iff,
    List.find?_eq_none] at h
  refine congrArg FileTree.mk (List.filter_eq_self.mpr fun e he => decide_eq_true fun heq => ?_)
  exact h e he (decide_eq_true heq)

/-- Without a node that was put at a free place the tree is what it was. -/
theorem erase_insert {t : FileTree} {place : Place} (hne : place ≠ [])
    (h : t.node? place = none) (node : Node) : (t.insert place node).erase place = t := by
  have herase := erase_eq_self hne h
  -- The new node stands in front, and taking away its place takes it away.
  have hinsert : (t.insert place node).erase place = (t.erase place).erase place := by
    refine congrArg FileTree.mk (List.filter_cons_of_neg ?_)
    rw [decide_eq_true_eq]
    exact fun hn => hn rfl
  rw [hinsert, herase, herase]

/-- A second node takes the place of the first one. -/
theorem insert_insert {t : FileTree} {place : Place} (hne : place ≠ [])
    (h : t.node? place = none) (first second : Node) :
    (t.insert place first).insert place second = t.insert place second := by
  change FileTree.mk ((place, second) :: ((t.insert place first).erase place).entries) =
    FileTree.mk ((place, second) :: (t.erase place).entries)
  rw [erase_insert hne h, erase_eq_self hne h]

theorem node?_insert_self {t : FileTree} {place : Place} (hne : place ≠ []) (node : Node) :
    (t.insert place node).node? place = some node := by
  rw [node?_insert _ _ _ _ hne, if_pos rfl]

theorem node?_nil (t : FileTree) : t.node? [] = some (.directory 0o755) := rfl

theorem ne_nil_of_node? {t : FileTree} {place : Place} (h : t.node? place = none) : place ≠ [] := by
  rintro rfl
  rw [node?_nil] at h
  cases h

/-- A tree has all the directories that another one has. -/
def KeepsDirectories (t t' : FileTree) : Prop :=
  ∀ place, t.isDirectoryAt place = true → t'.isDirectoryAt place = true

theorem isDirectoryAt_iff {t : FileTree} {place : Place} :
    t.isDirectoryAt place = true ↔ ∃ mode, t.node? place = some (.directory mode) := by
  unfold isDirectoryAt
  split
  · next mode h => exact ⟨fun _ => ⟨mode, h⟩, fun _ => rfl⟩
  · next h => exact ⟨fun hfalse => (by cases hfalse), fun ⟨mode, hmode⟩ => absurd hmode (h mode)⟩

theorem isSome_of_isDirectoryAt {t : FileTree} {place : Place}
    (h : t.isDirectoryAt place = true) : (t.node? place).isSome = true := by
  rcases isDirectoryAt_iff.mp h with ⟨mode, hmode⟩
  rw [hmode]
  rfl

theorem isDirectoryAt_of_none {t : FileTree} {place : Place} (h : t.node? place = none) :
    t.isDirectoryAt place = false := by
  unfold isDirectoryAt
  rw [h]

theorem isDirectoryAt_of_file {t : FileTree} {place : Place} {content : List UInt8} {mode : Nat}
    (h : t.node? place = some (.file content mode)) : t.isDirectoryAt place = false := by
  unfold isDirectoryAt
  rw [h]

theorem node?_insert_of_ne {t : FileTree} {place p : Place} (h : p ≠ place) (node : Node) :
    (t.insert place node).node? p = t.node? p := by
  by_cases hnil : p = []
  · rw [hnil, node?_nil, node?_nil]
  · rw [node?_insert _ _ _ _ hnil, if_neg h]

theorem node?_erase_of_ne {t : FileTree} {place p : Place} (h : p ≠ place) :
    (t.erase place).node? p = t.node? p := by
  by_cases hnil : p = []
  · rw [hnil, node?_nil, node?_nil]
  · rw [node?_erase _ _ _ hnil, if_neg h]

theorem node?_erase_self {t : FileTree} {place : Place} (hne : place ≠ []) :
    (t.erase place).node? place = none := by
  rw [node?_erase _ _ _ hne, if_pos rfl]

theorem keepsDirectories_of_ne {t t' : FileTree} {place : Place}
    (h : t.isDirectoryAt place = false) (hnode : ∀ p, p ≠ place → t'.node? p = t.node? p) :
    t.KeepsDirectories t' := by
  intro p hp
  have hne : p ≠ place := by
    rintro rfl
    rw [h] at hp
    cases hp
  rcases isDirectoryAt_iff.mp hp with ⟨mode, hmode⟩
  exact isDirectoryAt_iff.mpr ⟨mode, (hnode p hne).trans hmode⟩

/-- A node at a place without a directory is in the place of no directory. -/
theorem keepsDirectories_insert {t : FileTree} {place : Place}
    (h : t.isDirectoryAt place = false) (node : Node) :
    t.KeepsDirectories (t.insert place node) :=
  keepsDirectories_of_ne h fun _ hne => node?_insert_of_ne hne node

theorem keepsDirectories_erase {t : FileTree} {place : Place}
    (h : t.isDirectoryAt place = false) : t.KeepsDirectories (t.erase place) :=
  keepsDirectories_of_ne h fun _ hne => node?_erase_of_ne hne

/-! ## Following segments -/

/-- Where one segment leads from a place. -/
def next (t : FileTree) (here : Place) (s : List UInt8) : Except Errno Place :=
  if !t.isDirectoryAt here then .error .notDirectory
  else if s = [] || s = [Path.dot] then .ok here
  else if s = [Path.dot, Path.dot] then .ok here.dropLast
  else if nameLimit < s.length then .error .nameTooLong
  else if (t.node? (here ++ [⟨s⟩])).isSome then .ok (here ++ [⟨s⟩])
  else .error .noEntry

theorem follow_cons (t : FileTree) (here : Place) (s : List UInt8) (rest : List (List UInt8)) :
    t.follow here (s :: rest) = (t.next here s).bind fun place => t.follow place rest := by
  rw [follow]
  unfold next
  split
  · rfl
  · split
    · rfl
    · split
      · rfl
      · split
        · rfl
        · cases t.node? (here ++ [⟨s⟩]) <;> rfl

theorem follow_append (t : FileTree) (here : Place) (s r : List (List UInt8)) :
    t.follow here (s ++ r) = (t.follow here s).bind fun place => t.follow place r := by
  induction s generalizing here with
  | nil => rfl
  | cons first s ih =>
    rw [List.cons_append, follow_cons, follow_cons]
    cases t.next here first with
    | error e => rfl
    | ok place => exact ih place

/-- A segment leads where it did in a tree that has the directories and the
    node that it led to. -/
theorem next_of_directories {t t' : FileTree} (hdir : t.KeepsDirectories t') {here there : Place}
    {s : List UInt8} (hthere : (t.node? there).isSome = true → (t'.node? there).isSome = true)
    (hs : t.next here s = .ok there) : t'.next here s = .ok there := by
  unfold next at hs ⊢
  split at hs
  · cases hs
  · next hdirectory =>
    rw [hdir here (by simpa using hdirectory), if_neg (by decide)]
    split at hs
    · next hidle => rw [if_pos hidle, ← hs]
    · next hidle =>
      rw [if_neg hidle]
      split at hs
      · next hup => rw [if_pos hup, ← hs]
      · next hup =>
        rw [if_neg hup]
        split at hs
        · cases hs
        · next hlong =>
          rw [if_neg hlong]
          split at hs
          -- Only a name asks for a node that need not be a directory.
          · next hsome =>
            cases Except.ok.inj hs
            rw [hthere hsome, if_pos rfl]
          · cases hs

theorem isDirectoryAt_of_next {t : FileTree} {here there : Place} {s : List UInt8}
    (h : t.next here s = .ok there) : t.isDirectoryAt here = true := by
  unfold next at h
  split at h
  · cases h
  · next hdirectory => simpa using hdirectory

/-- A way to a directory leads through directories, and is found in every tree
    that has them. -/
theorem follow_of_directories {t t' : FileTree} (hdir : t.KeepsDirectories t')
    {here there : Place} {s : List (List UInt8)} (hs : t.follow here s = .ok there)
    (hthere : t.isDirectoryAt there = true) : t'.follow here s = .ok there := by
  induction s generalizing here with
  | nil => exact hs
  | cons first s ih =>
    rw [follow_cons] at hs ⊢
    rcases exists_of_bind_eq_ok hs with ⟨found, hfound, hrest⟩
    -- What was found on the way is a directory, since the way goes on or ends there.
    have hdirectory : t.isDirectoryAt found = true := by
      cases s with
      | nil =>
        rw [Except.ok.inj hrest]
        exact hthere
      | cons second s =>
        rw [follow_cons] at hrest
        rcases exists_of_bind_eq_ok hrest with ⟨further, hfurther, -⟩
        exact isDirectoryAt_of_next hfurther
    rw [next_of_directories hdir (fun _ => isSome_of_isDirectoryAt (hdir found hdirectory)) hfound]
    exact ih hrest

theorem start_of_isAbsolute {p : Path} (h : Path.isAbsolute p = true) (work : Place) :
    start work p = [] := by
  unfold start
  rw [if_pos h]

/-! ## Entries -/

/-- The target of a path without a slash at its end. -/
theorem target_of_segments {t : FileTree} {work : Place} {p : Path} {front : List (List UInt8)}
    {last : List UInt8} (hsegments : Path.segments p.bytes = front ++ [last]) (hlast : last ≠ []) :
    t.target work p = (do
      checkPath p
      let directory ← (t.follow (start work p) front).mapError .system
      if !t.isDirectoryAt directory then .error (.system .notDirectory)
      else if last = [Path.dot] then .ok (.directory directory)
      else if last = [Path.dot, Path.dot] then .ok (.directory directory.dropLast)
      else if nameLimit < last.length then .error (.system .nameTooLong)
      else .ok (.entry directory ⟨last⟩ false)) := by
  have hreversed : (Path.segments p.bytes).reverse = last :: front.reverse := by
    rw [hsegments, List.reverse_append]
    rfl
  have hslashed : decide ((last :: front.reverse).head? = some []) = false :=
    decide_eq_false fun h => hlast (Option.some.inj h)
  unfold target
  simp only [hreversed, hslashed]
  rw [List.dropWhile_cons_of_neg (by rw [decide_eq_true_eq]; exact hlast)]
  simp only [List.reverse_reverse]

theorem exists_segments (p : Path) :
    ∃ front last, Path.segments p.bytes = front ++ [last] :=
  ⟨_, _, (List.dropLast_concat_getLast (Path.segments_ne_nil p.bytes)).symm⟩

/-- What it takes for a path to lead to an entry without a slash behind its
    name. -/
structure LeadsTo (t : FileTree) (work : Place) (p : Path) (front : List (List UInt8))
    (directory : Place) (name : OsText) : Prop where
  checked : checkPath p = .ok ()
  segments : Path.segments p.bytes = front ++ [name.bytes]
  nonempty : name.bytes ≠ []
  notDot : name.bytes ≠ [Path.dot]
  notDots : name.bytes ≠ [Path.dot, Path.dot]
  short : name.bytes.length ≤ nameLimit
  found : t.follow (start work p) front = .ok directory
  isDirectory : t.isDirectoryAt directory = true

theorem LeadsTo.target {t : FileTree} {work directory : Place} {p : Path}
    {front : List (List UInt8)} {name : OsText} (h : LeadsTo t work p front directory name) :
    t.target work p = .ok (.entry directory name false) := by
  rw [target_of_segments h.segments h.nonempty, h.checked, h.found]
  simp only [mapError_ok, bind, Except.bind]
  rw [h.isDirectory, if_neg (by decide), if_neg h.notDot, if_neg h.notDots,
    if_neg (Nat.not_lt.mpr h.short)]

/-- A slash at the end of a path shows in its target. -/
theorem target_ne_of_slash {t : FileTree} {work : Place} {p : Path} {front : List (List UInt8)}
    (hsegments : Path.segments p.bytes = front ++ [[]]) (directory : Place) (name : OsText) :
    t.target work p ≠ .ok (.entry directory name false) := by
  have hslashed : decide ((Path.segments p.bytes).reverse.head? = some []) = true := by
    rw [hsegments, List.reverse_append]
    exact decide_eq_true rfl
  intro h
  unfold target at h
  rcases exists_of_bind_eq_ok h with ⟨u, -, h⟩
  simp only [hslashed] at h
  split at h
  · cases h
  · rcases exists_of_bind_eq_ok h with ⟨found, -, h⟩
    repeat' split at h
    all_goals cases h

theorem exists_leadsTo {t : FileTree} {work directory : Place} {p : Path} {name : OsText}
    (h : t.target work p = .ok (.entry directory name false)) :
    ∃ front, LeadsTo t work p front directory name := by
  rcases exists_segments p with ⟨front, last, hsegments⟩
  -- An empty last segment stands for a slash at the end.
  by_cases hlast : last = []
  · exact absurd h (target_ne_of_slash (by rw [hsegments, hlast]) directory name)
  · rw [target_of_segments hsegments hlast] at h
    rcases exists_of_bind_eq_ok h with ⟨u, hchecked, h⟩
    rcases exists_of_bind_eq_ok h with ⟨found, hfound, h⟩
    split at h
    · cases h
    · next hdirectory =>
      split at h
      · cases h
      · next hdot =>
        split at h
        · cases h
        · next hdots =>
          split at h
          · cases h
          · next hlong =>
            cases h
            exact ⟨front, hchecked, hsegments, hlast, hdot, hdots, Nat.not_lt.mp hlong,
              eq_ok_of_mapError_eq_ok hfound, by simpa using hdirectory⟩

/-- A path leads to an entry in every tree that has the directories on the
    way. -/
theorem LeadsTo.of_directories {t t' : FileTree} {work directory : Place} {p : Path}
    {front : List (List UInt8)} {name : OsText} (h : LeadsTo t work p front directory name)
    (hdir : t.KeepsDirectories t') : LeadsTo t' work p front directory name :=
  { h with
    found := follow_of_directories hdir h.found h.isDirectory
    isDirectory := hdir directory h.isDirectory }

/-- An absolute path leads to the same entry from everywhere. -/
theorem LeadsTo.of_isAbsolute {t : FileTree} {work directory : Place} {p : Path}
    {front : List (List UInt8)} {name : OsText} (h : LeadsTo t work p front directory name)
    (habsolute : Path.isAbsolute p = true) (work' : Place) :
    LeadsTo t work' p front directory name :=
  { h with
    found := by
      rw [start_of_isAbsolute habsolute, ← start_of_isAbsolute habsolute work]
      exact h.found }

theorem LeadsTo.insert {t : FileTree} {work directory : Place} {p : Path}
    {front : List (List UInt8)} {name : OsText} (h : LeadsTo t work p front directory name)
    {place : Place} (hplace : t.node? place = none) (node : Node) :
    LeadsTo (t.insert place node) work p front directory name :=
  h.of_directories (keepsDirectories_insert (isDirectoryAt_of_none hplace) node)

/-- The place of an entry is found exactly if there is a node. -/
theorem LeadsTo.locate {t : FileTree} {work directory : Place} {p : Path}
    {front : List (List UInt8)} {name : OsText} (h : LeadsTo t work p front directory name) :
    t.locate work p =
      if (t.node? (directory ++ [name])).isSome then .ok (directory ++ [name])
      else .error (.system .noEntry) := by
  unfold FileTree.locate
  rw [h.checked, h.segments, follow_append, h.found]
  simp only [bind, Except.bind]
  rw [follow, h.isDirectory, if_neg (by decide), if_neg (by simp [h.nonempty, h.notDot]),
    if_neg h.notDots, if_neg (Nat.not_lt.mpr h.short)]
  cases hnode : t.node? (directory ++ [name]) <;> rfl

/-- Nothing is at a path that leads to a free place. -/
theorem LeadsTo.pathExists {t : FileTree} {work directory : Place} {p : Path}
    {front : List (List UInt8)} {name : OsText} (h : LeadsTo t work p front directory name)
    (hfree : t.node? (directory ++ [name]) = none) : t.pathExists work p = false := by
  unfold FileTree.pathExists stat?
  rw [h.locate, hfree]
  rfl

/-- Without a file nothing is at the path that led to it. -/
theorem LeadsTo.pathExists_erase {t : FileTree} {work directory : Place} {p : Path}
    {front : List (List UInt8)} {name : OsText} (h : LeadsTo t work p front directory name)
    (hfile : t.isDirectoryAt (directory ++ [name]) = false) :
    (t.erase (directory ++ [name])).pathExists work p = false :=
  (h.of_directories (keepsDirectories_erase hfile)).pathExists
    (node?_erase_self (List.append_ne_nil_of_right_ne_nil directory (List.cons_ne_nil name [])))

/-- The content of the file that a path leads to. -/
theorem LeadsTo.read {t : FileTree} {work directory : Place} {p : Path}
    {front : List (List UInt8)} {name : OsText} (h : LeadsTo t work p front directory name)
    {content : List UInt8} {mode : Nat}
    (hfile : t.node? (directory ++ [name]) = some (.file content mode)) :
    t.read work p = .ok content := by
  unfold FileTree.read
  rw [h.locate, hfile, Option.isSome_some, if_pos rfl]
  simp only [bind, Except.bind, hfile]

theorem LeadsTo.remove {t : FileTree} {work directory : Place} {p : Path}
    {front : List (List UInt8)} {name : OsText} (h : LeadsTo t work p front directory name)
    {content : List UInt8} {mode : Nat}
    (hfile : t.node? (directory ++ [name]) = some (.file content mode)) :
    t.remove work p = .ok (t.erase (directory ++ [name])) := by
  unfold FileTree.remove
  rw [h.target]
  simp only [bind, Except.bind, hfile, Bool.false_eq_true, if_false]

/-- A file at a free place can be removed by its absolute path from any working
    directory, and then the tree is what it was. -/
theorem LeadsTo.remove_insert {t : FileTree} {work directory : Place} {p : Path}
    {front : List (List UInt8)} {name : OsText} (h : LeadsTo t work p front directory name)
    (habsolute : Path.isAbsolute p = true) (hfree : t.node? (directory ++ [name]) = none)
    (content : List UInt8) (mode : Nat) (work' : Place) :
    (t.insert (directory ++ [name]) (.file content mode)).remove work' p = .ok t := by
  have hne := ne_nil_of_node? hfree
  have hleads := (h.insert hfree (.file content mode)).of_isAbsolute habsolute work'
  rw [hleads.remove (node?_insert_self hne _), erase_insert hne hfree]

/-- A file is created only at the free place of an entry. -/
theorem exists_of_create {t t' : FileTree} {work place : Place} {p : Path} {content : List UInt8}
    {mode : Nat} (h : t.create work p content mode = .ok (t', place)) :
    ∃ front directory name, LeadsTo t work p front directory name ∧ place = directory ++ [name] ∧
      t.node? place = none ∧ t' = t.insert place (.file content mode) := by
  rcases exists_of_bind_eq_ok h with ⟨target, htarget, h⟩
  cases target with
  | directory place => cases h
  | entry directory name slashed =>
    simp only at h
    split at h
    · cases h
    · next hfree =>
      split at h
      · cases h
      · next hslashed =>
        cases Except.ok.inj h
        rw [Bool.eq_false_iff.mpr hslashed] at htarget
        rcases exists_leadsTo htarget with ⟨front, hleads⟩
        exact ⟨front, directory, name, hleads, rfl, hfree, rfl⟩

/-- A file is removed only from the place that its path leads to. -/
theorem exists_of_remove {t t' : FileTree} {work : Place} {p : Path}
    (h : t.remove work p = .ok t') :
    ∃ place content mode, t.locate work p = .ok place ∧
      t.node? place = some (.file content mode) ∧ t' = t.erase place := by
  rcases exists_of_bind_eq_ok h with ⟨target, htarget, h⟩
  cases target with
  | directory place => cases h
  | entry directory name slashed =>
    simp only at h
    split at h
    · cases h
    · cases h
    · next content mode hfile =>
      split at h
      · cases h
      · next hslashed =>
        rw [Bool.eq_false_iff.mpr hslashed] at htarget
        rcases exists_leadsTo htarget with ⟨front, hleads⟩
        refine ⟨directory ++ [name], content, mode, ?_, hfile, (Except.ok.inj h).symm⟩
        rw [hleads.locate, hfile]
        rfl

/-- A file is moved only to the place that a path leads to, and into the place of
    no directory. -/
theorem exists_of_rename {t t' : FileTree} {work source : Place} {p : Path}
    (h : t.rename work source p = .ok t') :
    ∃ front directory name content mode, LeadsTo t work p front directory name ∧
      t.node? source = some (.file content mode) ∧
      t.isDirectoryAt (directory ++ [name]) = false ∧
      t' = (t.erase source).insert (directory ++ [name]) (.file content mode) := by
  unfold rename at h
  split at h
  · next content mode hsource =>
    rcases exists_of_bind_eq_ok h with ⟨target, htarget, h⟩
    cases target with
    | directory place => cases h
    | entry directory name slashed =>
      simp only at h
      split at h
      · cases h
      · next hnode =>
        split at h
        · cases h
        · next hslashed =>
          have hfile : t.isDirectoryAt (directory ++ [name]) = false := by
            rw [Bool.eq_false_iff, ne_eq, isDirectoryAt_iff]
            exact fun ⟨mode, hmode⟩ => hnode mode hmode
          rw [Bool.eq_false_iff.mpr hslashed] at htarget
          rcases exists_leadsTo htarget with ⟨front, hleads⟩
          exact ⟨front, directory, name, content, mode, hleads, hsource, hfile,
            (Except.ok.inj h).symm⟩
  · cases h

/-- A file that was created and moved to a path is found there, and what is at
    other places is what was there before the creation. -/
theorem read_of_create_rename {t made t' : FileTree} {work place work' : Place} {p q : Path}
    {first content : List UInt8} {mode mode' : Nat}
    (hcreate : t.create work p first mode = .ok (made, place))
    (hrename : (made.insert place (.file content mode')).rename work' place q = .ok t') :
    t'.read work' q = .ok content ∧
      ∃ target, t'.locate work' q = .ok target ∧
        ∀ other, other ≠ target → t'.node? other = t.node? other := by
  rcases exists_of_create hcreate with ⟨_, _, _, -, -, hfree, rfl⟩
  have hne := ne_nil_of_node? hfree
  rw [insert_insert hne hfree] at hrename
  have hsource := node?_insert_self (t := t) hne (.file content mode')
  have hkeeps : t.KeepsDirectories (t.insert place (.file content mode')) :=
    keepsDirectories_insert (isDirectoryAt_of_none hfree) _
  have hback := keepsDirectories_erase (isDirectoryAt_of_file hsource)
  -- The place was free, so moving the file away only takes it back.
  rw [erase_insert hne hfree] at hback
  rcases exists_of_rename hrename with
    ⟨front, directory, name, moved, mode'', hleads, hmoved, hfile, rfl⟩
  rw [hsource] at hmoved
  cases hmoved
  rw [erase_insert hne hfree]
  have hplace : t.isDirectoryAt (directory ++ [name]) = false := by
    rw [Bool.eq_false_iff]
    intro hdirectory
    rw [hkeeps _ hdirectory] at hfile
    cases hfile
  have hleads' := (hleads.of_directories hback).of_directories
    (keepsDirectories_insert hplace (.file content mode'))
  have hnode := node?_insert_self (t := t)
    (List.append_ne_nil_of_right_ne_nil directory (List.cons_ne_nil name [])) (.file content mode')
  refine ⟨hleads'.read hnode, directory ++ [name], ?_, fun _ hne => node?_insert_of_ne hne _⟩
  rw [hleads'.locate, hnode, Option.isSome_some, if_pos rfl]

/-- A file that was created can be removed again, whatever has come into it, and
    then the tree is what it was before. -/
theorem remove_of_create {t made : FileTree} {work place : Place} {p : Path}
    {first : List UInt8} {mode : Nat} (h : t.create work p first mode = .ok (made, place))
    (habsolute : Path.isAbsolute p = true) (content : List UInt8) (mode' : Nat) (work' : Place) :
    (made.insert place (.file content mode')).remove work' p = .ok t := by
  rcases exists_of_create h with ⟨front, directory, name, hleads, rfl, hfree, rfl⟩
  rw [insert_insert (ne_nil_of_node? hfree) hfree]
  exact hleads.remove_insert habsolute hfree content mode' work'

/-- The front of a path that may be looked up may be looked up too. -/
theorem checkPath_of_append {p q : Path} {rest : List UInt8} (hne : p.bytes ≠ [])
    (hbytes : q.bytes = p.bytes ++ rest) (h : checkPath q = .ok ()) : checkPath p = .ok () := by
  unfold checkPath at h ⊢
  split at h
  · cases h
  · next hnul =>
    split at h
    · cases h
    · split at h
      · cases h
      · next hlength =>
        rw [hbytes, List.length_append] at hlength
        rw [if_neg, if_neg, if_neg (by omega)]
        · rw [List.isEmpty_iff]
          exact hne
        · intro hp
          refine hnul ?_
          unfold OsText.hasNul at hp ⊢
          rw [hbytes, List.contains_append, hp, Bool.true_or]

/-- The path of a name in a directory leads to an entry of that directory. -/
theorem LeadsTo.of_join {t : FileTree} {work directory : Place} {base p : Path} {name : OsText}
    {front : List (List UInt8)} (h : LeadsTo t work (Path.join base p) front directory name)
    (habsolute : Path.isAbsolute base = true) (hname : Path.IsName p.bytes) :
    name = p ∧ t.locate work base = .ok directory := by
  have hbase : base.bytes ≠ [] := by
    intro hnil
    unfold Path.isAbsolute at habsolute
    rw [hnil] at habsolute
    cases habsolute
  rcases Path.segments_join hbase hname with ⟨front', hsegments, hbaseSegments⟩
  rw [h.segments] at hsegments
  -- The last segment of the joined path is the name.
  rcases List.append_inj' hsegments rfl with ⟨rfl, hlast⟩
  have hfound := h.found
  rw [start_of_isAbsolute (Path.isAbsolute_join habsolute p)] at hfound
  refine ⟨congrArg OsText.mk (List.cons.inj hlast).1, ?_⟩
  rcases Path.exists_bytes_join base (Path.isAbsolute_of_isName hname) with ⟨rest, hrest⟩
  have hchecked := checkPath_of_append hbase hrest h.checked
  unfold FileTree.locate
  rw [hchecked, start_of_isAbsolute habsolute]
  -- A slash at the end of the directory adds an empty segment, which leads nowhere else.
  rcases hbaseSegments with hsame | hslash
  · rw [hsame, hfound]
    rfl
  · rw [hslash, follow_append, hfound]
    simp only [bind, Except.bind]
    rw [follow, h.isDirectory]
    rfl

end FileTree

end BrokerClient
