import BrokerClient.Proofs.Files.Lookup

/-!
# What Is Left of a Tree

When files go away, paths lead nowhere or where they led before. A path that
leads nowhere stays that way (`stat?_eq_none_of_isWithin`), so what was removed once
is gone for good unless somebody puts it back.

What a file is found under ends in its name. A path that ends in a slash or in a
dot asks for a directory. One that ends in `..` leads to the parent of a
directory, and that is no file in a tree where every node stands in a directory.

## Main definitions

* `FileTree.IsWithin`: A tree has no other nodes than another one.
* `FileTree.IsRooted`: Every node of a tree stands in a directory.

## Theorems

* `FileTree.stat?_of_isWithin`: What is still found was found before.
* `FileTree.stat?_eq_none_of_isWithin`: What is gone stays gone.
* `FileTree.leadsTo_of_file`: The path of a file leads to an entry.
* `FileTree.isRooted_of_all`: How to tell that every node stands in a directory.
* `FileTree.ne_dots_of_file`: No file is found under a path that ends in `..`.
-/

namespace BrokerClient

namespace FileTree

/-! ## Paths in what is left -/

/-- A tree has no other nodes than another one has. -/
def IsWithin (t' t : FileTree) : Prop :=
  ∀ place node, t'.node? place = some node → t.node? place = some node

variable {t t' : FileTree}

theorem IsWithin.keepsDirectories (h : t'.IsWithin t) : t'.KeepsDirectories t := by
  intro place hdirectory
  rcases isDirectoryAt_iff.mp hdirectory with ⟨mode, hmode⟩
  exact isDirectoryAt_iff.mpr ⟨mode, h place _ hmode⟩

theorem IsWithin.isSome (h : t'.IsWithin t) {place : Place}
    (hsome : (t'.node? place).isSome = true) : (t.node? place).isSome = true := by
  rcases Option.isSome_iff_exists.mp hsome with ⟨node, hnode⟩
  rw [h place node hnode]
  rfl

/-- A way that is left was there before. -/
theorem follow_of_isWithin (h : t'.IsWithin t) {here there : Place} {s : List (List UInt8)}
    (hs : t'.follow here s = .ok there) : t.follow here s = .ok there := by
  induction s generalizing here with
  | nil => exact hs
  | cons first s ih =>
    rw [follow_cons] at hs ⊢
    rcases exists_of_bind_eq_ok hs with ⟨found, hfound, hrest⟩
    rw [next_of_directories h.keepsDirectories h.isSome hfound]
    exact ih hrest

/-- What a path is looked up as. -/
theorem locate_eq_ok_iff {work place : Place} {p : Path} :
    t.locate work p = .ok place ↔
      checkPath p = .ok () ∧ t.follow (start work p) (Path.segments p.bytes) = .ok place := by
  unfold locate
  constructor
  · intro h
    rcases exists_of_bind_eq_ok h with ⟨u, hchecked, hfollow⟩
    exact ⟨hchecked, eq_ok_of_mapError_eq_ok hfollow⟩
  · rintro ⟨hchecked, hfollow⟩
    rw [hchecked, hfollow]
    rfl

theorem stat?_eq_some_iff {work : Place} {p : Path} {node : Node} :
    t.stat? work p = some node ↔
      ∃ place, t.locate work p = .ok place ∧ t.node? place = some node := by
  unfold stat?
  cases hlocate : t.locate work p with
  | error e => exact ⟨fun h => (by cases h), fun ⟨place, hplace, _⟩ => (by cases hplace)⟩
  | ok place =>
    refine ⟨fun h => ⟨place, rfl, h⟩, fun ⟨place', hplace, hnode⟩ => ?_⟩
    rw [Except.ok.inj hplace]
    exact hnode

/-- What is still found was found before. -/
theorem stat?_of_isWithin (h : t'.IsWithin t) {work : Place} {p : Path} {node : Node}
    (hstat : t'.stat? work p = some node) : t.stat? work p = some node := by
  rcases stat?_eq_some_iff.mp hstat with ⟨place, hlocate, hnode⟩
  rcases locate_eq_ok_iff.mp hlocate with ⟨hchecked, hfollow⟩
  exact stat?_eq_some_iff.mpr
    ⟨place, locate_eq_ok_iff.mpr ⟨hchecked, follow_of_isWithin h hfollow⟩, h place node hnode⟩

/-- What is gone stays gone. -/
theorem stat?_eq_none_of_isWithin (h : t'.IsWithin t) {work : Place} {p : Path}
    (hstat : t.stat? work p = none) : t'.stat? work p = none := by
  refine Option.eq_none_iff_forall_ne_some.mpr fun node hnode => ?_
  rw [stat?_of_isWithin h hnode] at hstat
  cases hstat

/-! ## Paths of files -/

/-- Every node stands in a directory. -/
def IsRooted (t : FileTree) : Prop :=
  ∀ place node, t.node? place = some node → t.isDirectoryAt place.dropLast = true

/-- It is enough to look at the places that have entries. -/
theorem isRooted_of_all (h : t.entries.all (fun e => t.isDirectoryAt e.1.dropLast) = true) :
    t.IsRooted := by
  intro place node hnode
  unfold node? at hnode
  split at hnode
  · next hnil =>
    rw [List.isEmpty_iff.mp hnil]
    rfl
  · rcases Option.map_eq_some_iff.mp hnode with ⟨e, he, -⟩
    have hplace : e.1 = place := by simpa using List.find?_some he
    rw [← hplace]
    exact List.all_eq_true.mp h e (List.mem_of_find?_eq_some he)

theorem isFile_iff {work : Place} {p : Path} :
    t.isFile work p = true ↔ ∃ content mode, t.stat? work p = some (.file content mode) := by
  unfold isFile
  split
  · next content mode h => exact ⟨fun _ => ⟨content, mode, h⟩, fun _ => rfl⟩
  · next h => exact ⟨fun hfalse => (by cases hfalse), fun ⟨content, mode, hfile⟩ =>
      absurd hfile (h content mode)⟩

/-- The last step on the way to a node. -/
theorem exists_last {work place : Place} {p : Path} {front : List (List UInt8)} {last : List UInt8}
    (hsegments : Path.segments p.bytes = front ++ [last]) (hlocate : t.locate work p = .ok place) :
    ∃ directory, t.follow (start work p) front = .ok directory ∧
      t.next directory last = .ok place := by
  rcases locate_eq_ok_iff.mp hlocate with ⟨-, hfollow⟩
  rw [hsegments, follow_append] at hfollow
  rcases exists_of_bind_eq_ok hfollow with ⟨directory, hfront, hlast⟩
  rw [follow_cons] at hlast
  rcases exists_of_bind_eq_ok hlast with ⟨found, hnext, hfound⟩
  rw [Except.ok.inj hfound] at hnext
  exact ⟨directory, hfront, hnext⟩

/-- The path of a file leads to an entry of a directory, unless it ends in
    `..`. -/
theorem leadsTo_of_file {work place : Place} {p : Path} {front : List (List UInt8)}
    {last : List UInt8} {content : List UInt8} {mode : Nat}
    (hsegments : Path.segments p.bytes = front ++ [last]) (hdots : last ≠ [Path.dot, Path.dot])
    (hlocate : t.locate work p = .ok place) (hfile : t.node? place = some (.file content mode)) :
    ∃ directory, LeadsTo t work p front directory ⟨last⟩ ∧ place = directory ++ [⟨last⟩] := by
  rcases exists_last hsegments hlocate with ⟨directory, hfront, hlast⟩
  have hdirectory := isDirectoryAt_of_next hlast
  unfold next at hlast
  rw [hdirectory, if_neg (by decide), if_neg hdots] at hlast
  split at hlast
  -- An empty segment or a dot leads to the directory itself, and here is a file.
  · cases Except.ok.inj hlast
    rw [isDirectoryAt_of_file hfile] at hdirectory
    cases hdirectory
  · next hidle =>
    split at hlast
    · cases hlast
    · next hlong =>
      split at hlast
      · rw [Bool.or_eq_true, decide_eq_true_eq, decide_eq_true_eq, not_or] at hidle
        exact ⟨directory, ⟨(locate_eq_ok_iff.mp hlocate).1, hsegments, hidle.1, hidle.2, hdots,
          Nat.not_lt.mp hlong, hfront, hdirectory⟩, (Except.ok.inj hlast).symm⟩
      · cases hlast

/-- Where every node stands in a directory, no file is found under a path that
    ends in `..`. -/
theorem ne_dots_of_file (hrooted : t.IsRooted) {work place : Place} {p : Path}
    {front : List (List UInt8)} {last : List UInt8} {content : List UInt8} {mode : Nat}
    (hsegments : Path.segments p.bytes = front ++ [last]) (hlocate : t.locate work p = .ok place)
    (hfile : t.node? place = some (.file content mode)) : last ≠ [Path.dot, Path.dot] := by
  rintro rfl
  rcases exists_last hsegments hlocate with ⟨directory, -, hlast⟩
  have hdirectory := isDirectoryAt_of_next hlast
  unfold next at hlast
  rw [hdirectory, if_neg (by decide), if_neg (by decide), if_pos rfl] at hlast
  -- The parent of a directory is a directory.
  rcases isDirectoryAt_iff.mp hdirectory with ⟨mode', hmode⟩
  have hparent := hrooted directory _ hmode
  rw [Except.ok.inj hlast, isDirectoryAt_of_file hfile] at hparent
  cases hparent

end FileTree

end BrokerClient
