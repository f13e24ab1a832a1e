import BrokerClient.Proofs.Files.Remaining
import BrokerClient.Proofs.Host.Removal

/-!
# Files in One Directory

Names that are joined to one directory are looked up there one beside the other.
The way to the directory is the same for all of them, and it leads through
directories only. So a file that goes away under one name is in the way of no
other name, and each of the others leads to what it led to before, whether that
is a file, a directory, or an error (`Loses.read_eq`).

A tree from which files were removed under some names is described by the tree
before and by these names alone. It does not matter in which order the files
went away, or whether a removal was tried twice (`Loses.without`).

## Main definitions

* `Path.front`: The segments of a directory in front of a name in it.
* `FileTree.Removable`: The file at a path stands at a place and can be removed.
* `FileTree.without`: A tree after the attempt to remove a file.
* `FileTree.Loses`: A tree becomes another one that lacks the nodes at some places only.
* `FileTree.swept`: The places of the files under some names in a directory.

## Theorems

* `FileTree.exists_of_locate_join`: Where names in a directory lead.
* `FileTree.removable_join_iff`: Files under names in a directory can be removed.
* `FileTree.Loses.read_eq`: Other names lead to what they led to before.
* `FileTree.Loses.read_of_removable`: Names whose files are gone lead nowhere.
* `FileTree.Loses.without`: Another removal adds its name.
-/

namespace BrokerClient

namespace Path

/-- The segments in front of a name that is joined to a directory. A slash at the
    end of the directory counts for nothing. -/
def front (base : Path) : List (List UInt8) :=
  if base.bytes.isEmpty then []
  else if base.bytes.getLast? = some slash then (segments base.bytes).dropLast
  else segments base.bytes

theorem segments_join_name (base : Path) {name : Path} (hname : IsName name.bytes) :
    segments (join base name).bytes = front base ++ [name.bytes] := by
  unfold join front
  rw [isAbsolute_of_isName hname, if_neg (by decide)]
  by_cases hempty : base.bytes = []
  · rw [hempty]
    exact segments_of_notMem hname.noSlash
  · simp only [List.isEmpty_eq_false_iff.mpr hempty, Bool.false_or, Bool.false_eq_true, if_false]
    by_cases hlast : base.bytes.getLast? = some slash
    -- No second slash is put behind one that is there.
    · rcases exists_of_getLast?_slash hlast with ⟨before, hbefore, hsegments⟩
      rw [if_pos (decide_eq_true hlast), if_pos hlast, hsegments, List.dropLast_concat]
      simp only
      rw [hbefore, List.append_assoc, List.cons_append, List.nil_append, segments_append_slash,
        segments_of_notMem hname.noSlash]
    · rw [if_neg (by rw [decide_eq_true_eq]; exact hlast), if_neg hlast]
      simp only
      rw [segments_append_slash, segments_of_notMem hname.noSlash]

theorem isAbsolute_join_name (base : Path) {name : Path} (hname : IsName name.bytes) :
    isAbsolute (join base name) = isAbsolute base := by
  unfold join
  rw [isAbsolute_of_isName hname, if_neg (by decide)]
  rcases base with ⟨_ | ⟨b, bytes⟩⟩
  · exact isAbsolute_of_isName hname
  · unfold isAbsolute
    split <;> rfl

end Path

namespace FileTree

open BrokerClient.Path (IsName front)

variable {t t' : FileTree} {work place : Place} {base p : Path} {name : OsText}

/-! ## Ways in one tree -/

theorem follow_congr (h : ∀ place, t'.node? place = t.node? place) (here : Place)
    (s : List (List UInt8)) : t'.follow here s = t.follow here s := by
  have hnext : ∀ here s, t'.next here s = t.next here s := by
    intro here s
    unfold next isDirectoryAt
    rw [h, h]
  induction s generalizing here with
  | nil => rfl
  | cons first s ih =>
    rw [follow_cons, follow_cons, hnext]
    exact congrArg _ (funext ih)

theorem start_join (work : Place) (base : Path) (hname : IsName name.bytes) :
    start work (Path.join base name) = start work base := by
  unfold start
  rw [Path.isAbsolute_join_name base hname]

/-- A name in a directory is looked up in the directory. -/
theorem locate_join (t : FileTree) (work : Place) (base : Path) (hname : IsName name.bytes) :
    t.locate work (Path.join base name) = (do
      checkPath (Path.join base name)
      ((t.follow (start work base) (front base)).bind fun directory =>
        t.next directory name.bytes).mapError .system) := by
  -- The last segment is one step of its own.
  have hsingle : ∀ directory, t.follow directory [name.bytes] = t.next directory name.bytes := by
    intro directory
    rw [follow_cons]
    cases t.next directory name.bytes <;> rfl
  unfold locate
  rw [Path.segments_join_name base hname, start_join work base hname, follow_append]
  simp only [hsingle]

/-- A name leads to the entry of that name. -/
theorem next_name (t : FileTree) (directory : Place) (hname : IsName name.bytes) :
    t.next directory name.bytes =
      if !t.isDirectoryAt directory then .error .notDirectory
      else if nameLimit < name.bytes.length then .error .nameTooLong
      else if (t.node? (directory ++ [name])).isSome then .ok (directory ++ [name])
      else .error .noEntry := by
  -- A name is a step down, not one on the spot or back.
  have hidle : ¬(name.bytes = [] || name.bytes = [Path.dot]) = true := by
    simp [hname.nonempty, hname.notDot]
  unfold next
  rw [if_neg hidle, if_neg hname.notDots]

/-- A name is removed from the directory. -/
theorem remove_join (t : FileTree) (work : Place) (base : Path) (hname : IsName name.bytes) :
    t.remove work (Path.join base name) = (do
      checkPath (Path.join base name)
      let directory ← (t.follow (start work base) (front base)).mapError .system
      if !t.isDirectoryAt directory then .error (.system .notDirectory)
      else if nameLimit < name.bytes.length then .error (.system .nameTooLong)
      else
        match t.node? (directory ++ [name]) with
        | none => .error (.system .noEntry)
        | some (.directory _) => .error (.system .isDirectory)
        | some (.file _ _) => .ok (t.erase (directory ++ [name]))) := by
  unfold remove
  rw [target_of_segments (Path.segments_join_name base hname) hname.nonempty,
    start_join work base hname]
  simp only [if_neg hname.notDot, if_neg hname.notDots]
  cases checkPath (Path.join base name) with
  | error e => rfl
  | ok u =>
    cases t.follow (start work base) (front base) with
    | error e => rfl
    | ok directory =>
      simp only [mapError_ok, bind, Except.bind]
      cases t.isDirectoryAt directory with
      | false => rfl
      | true =>
        by_cases hlong : nameLimit < name.bytes.length
        · simp only [if_pos hlong]
          rfl
        · obtain ⟨bytes⟩ := name
          cases hnode : t.node? (directory ++ [⟨bytes⟩]) with
          | none => simp [hlong, hnode]
          | some node => cases node <;> simp [hlong, hnode]

/-- Where names in a directory lead. -/
theorem exists_of_locate_join (hname : IsName name.bytes)
    (h : t.locate work (Path.join base name) = .ok place) :
    ∃ directory, t.follow (start work base) (front base) = .ok directory ∧
      t.isDirectoryAt directory = true ∧ place = directory ++ [name] := by
  rw [locate_join t work base hname] at h
  rcases exists_of_bind_eq_ok h with ⟨u, -, h⟩
  rcases exists_of_bind_eq_ok (eq_ok_of_mapError_eq_ok h) with ⟨directory, hfollow, hnext⟩
  have hdirectory := isDirectoryAt_of_next hnext
  rw [next_name t directory hname, hdirectory, if_neg (by decide)] at hnext
  split at hnext
  · cases hnext
  · split at hnext
    · exact ⟨directory, hfollow, hdirectory, (Except.ok.inj hnext).symm⟩
    · cases hnext

/-! ## Removals -/

/-- The file at a path stands at a place and can be removed from there. -/
structure Removable (t : FileTree) (work : Place) (p : Path) (place : Place) : Prop where
  located : t.locate work p = .ok place
  removed : t.remove work p = .ok (t.erase place)

theorem exists_removable (h : t.remove work p = .ok t') :
    ∃ place, t.Removable work p place ∧ t' = t.erase place := by
  rcases exists_of_remove h with ⟨place, content, mode, hlocate, -, heq⟩
  exact ⟨place, ⟨hlocate, heq ▸ h⟩, heq⟩

theorem Removable.file (h : t.Removable work p place) :
    ∃ content mode, t.node? place = some (.file content mode) := by
  rcases exists_of_remove h.removed with ⟨place', content, mode, hlocate, hfile, -⟩
  cases h.located.symm.trans hlocate
  exact ⟨content, mode, hfile⟩

theorem Removable.ne_nil (h : t.Removable work p place) : place ≠ [] := by
  rcases h.file with ⟨content, mode, hfile⟩
  rintro rfl
  rw [node?_nil] at hfile
  cases hfile

/-- A file stands at one place only. -/
theorem Removable.eq_iff (h : t.Removable work p place) {place' : Place} :
    place' = place ↔ t.Removable work p place' := by
  constructor
  · rintro rfl
    exact h
  · intro h'
    exact Except.ok.inj (h'.located.symm.trans h.located)

/-- Every file under a name in a directory can be removed. -/
theorem removable_join_iff (hname : IsName name.bytes) :
    t.Removable work (Path.join base name) place ↔
      t.locate work (Path.join base name) = .ok place ∧
        ∃ content mode, t.node? place = some (.file content mode) := by
  refine ⟨fun h => ⟨h.located, h.file⟩, fun ⟨hlocate, content, mode, hfile⟩ => ⟨hlocate, ?_⟩⟩
  rcases leadsTo_of_file (Path.segments_join_name base hname) hname.notDots hlocate hfile with
    ⟨directory, hleads, rfl⟩
  exact hleads.remove hfile

/-- A tree after the attempt to remove a file. -/
def without (t : FileTree) (work : Place) (p : Path) : FileTree :=
  match t.remove work p with
  | .ok t' => t'
  | .error _ => t

/-! ## Trees that lack some files -/

/-- A tree becomes another one that lacks the nodes at some places. At all other
    places nothing changes. -/
structure Loses (t t' : FileTree) (gone : Place → Prop) : Prop where
  absent : ∀ place, gone place → t'.node? place = none
  kept : ∀ place, ¬gone place → t'.node? place = t.node? place

/-- The places of the files under some names in a directory. -/
def swept (t : FileTree) (work : Place) (base : Path) (names : OsText → Prop) (place : Place) :
    Prop :=
  ∃ name, names name ∧ t.Removable work (Path.join base name) place

theorem Loses.refl (t : FileTree) {gone : Place → Prop} (h : ∀ place, ¬gone place) :
    t.Loses t gone :=
  ⟨fun place hgone => absurd hgone (h place), fun _ _ => rfl⟩

theorem Loses.congr {gone gone' : Place → Prop} (h : t.Loses t' gone)
    (hiff : ∀ place, gone' place ↔ gone place) : t.Loses t' gone' :=
  ⟨fun place hgone => h.absent place ((hiff place).mp hgone),
    fun place hkept => h.kept place fun hgone => hkept ((hiff place).mpr hgone)⟩

theorem Loses.erase {gone : Place → Prop} (h : t.Loses t' gone) (hne : place ≠ []) :
    t.Loses (t'.erase place) fun p => gone p ∨ p = place := by
  constructor
  · rintro p (hgone | rfl)
    -- What was gone stays gone, since erasing adds no node.
    · exact Option.eq_none_iff_forall_ne_some.mpr fun node hnode => by
        cases (h.absent p hgone).symm.trans (node?_of_erase hnode)
    · exact node?_erase_self hne
  · intro p hkept
    rw [node?_erase_of_ne fun heq => hkept (.inr heq)]
    exact h.kept p fun hgone => hkept (.inl hgone)

theorem Loses.isWithin {gone : Place → Prop} (h : t.Loses t' gone) : t'.IsWithin t := by
  intro place node hnode
  by_cases hgone : gone place
  · cases (h.absent place hgone).symm.trans hnode
  · rw [← h.kept place hgone]
    exact hnode

theorem swept_congr {names names' : OsText → Prop} (h : ∀ name, names' name ↔ names name)
    (place : Place) : t.swept work base names' place ↔ t.swept work base names place :=
  exists_congr fun name => and_congr_left fun _ => h name

/-- The places of the files under one more name. -/
theorem swept_or {names : OsText → Prop} (place : Place) :
    t.swept work base (fun n => names n ∨ n = name) place ↔
      t.swept work base names place ∨ t.Removable work (Path.join base name) place := by
  constructor
  · rintro ⟨n, hn | rfl, hremovable⟩
    · exact .inl ⟨n, hn, hremovable⟩
    · exact .inr hremovable
  · rintro (⟨n, hn, hremovable⟩ | hremovable)
    · exact ⟨n, .inl hn, hremovable⟩
    · exact ⟨name, .inr rfl, hremovable⟩

namespace Loses

variable {names : OsText → Prop} (h : t.Loses t' (t.swept work base names))

include h

/-- Only files are gone. -/
theorem isDirectoryAt_eq (place : Place) : t'.isDirectoryAt place = t.isDirectoryAt place := by
  by_cases hgone : t.swept work base names place
  -- What is gone was a file, which is no directory either way.
  · rcases hgone with ⟨name, hname, hremovable⟩
    rcases hremovable.file with ⟨content, mode, hfile⟩
    rw [isDirectoryAt_of_none (h.absent place ⟨name, hname, hremovable⟩),
      isDirectoryAt_of_file hfile]
  · unfold isDirectoryAt
    rw [h.kept place hgone]

theorem keepsDirectories : t.KeepsDirectories t' :=
  fun place hplace => (h.isDirectoryAt_eq place).trans hplace

variable (hnames : ∀ name, names name → IsName name.bytes)

include hnames

/-- The way to the directory is what it was. -/
theorem follow_front_eq :
    t'.follow (start work base) (front base) = t.follow (start work base) (front base) := by
  by_cases hgone : ∃ place, t.swept work base names place
  -- If a file is gone, then the way led to its directory, and all directories are there.
  · rcases hgone with ⟨place, name, hname, hremovable⟩
    rcases exists_of_locate_join (hnames name hname) hremovable.located with
      ⟨directory, hfollow, hdirectory, -⟩
    rw [hfollow, follow_of_directories h.keepsDirectories hfollow hdirectory]
  · exact follow_congr (fun place => h.kept place fun hplace => hgone ⟨place, hplace⟩) _ _

variable (hkept : ∀ place, names name → ¬t.Removable work (Path.join base name) place)

include hkept

/-- The entry of a name whose file is not among those that are gone. -/
theorem node?_eq {directory : Place}
    (hfollow : t.follow (start work base) (front base) = .ok directory) :
    t'.node? (directory ++ [name]) = t.node? (directory ++ [name]) := by
  refine h.kept _ fun ⟨other, hother, hremovable⟩ => ?_
  rcases exists_of_locate_join (hnames other hother) hremovable.located with
    ⟨directory', hfollow', -, hplace⟩
  cases hfollow.symm.trans hfollow'
  -- Files of different names stand at different places.
  cases (List.append_inj' hplace rfl).2
  exact hkept _ hother hremovable

variable (hname : IsName name.bytes)

include hname

theorem locate_eq :
    t'.locate work (Path.join base name) = t.locate work (Path.join base name) := by
  rw [locate_join t' work base hname, locate_join t work base hname, h.follow_front_eq hnames]
  cases hfollow : t.follow (start work base) (front base) with
  | error e => rfl
  | ok directory =>
    have hnext : t'.next directory name.bytes = t.next directory name.bytes := by
      rw [next_name t' directory hname, next_name t directory hname,
        h.isDirectoryAt_eq, h.node?_eq hnames hkept hfollow]
    simp only [Except.bind, hnext]

theorem node?_eq_of_locate (hlocate : t.locate work (Path.join base name) = .ok place) :
    t'.node? place = t.node? place := by
  rcases exists_of_locate_join hname hlocate with ⟨directory, hfollow, -, rfl⟩
  exact h.node?_eq hnames hkept hfollow

theorem stat?_eq : t'.stat? work (Path.join base name) = t.stat? work (Path.join base name) := by
  unfold stat?
  rw [h.locate_eq hnames hkept hname]
  cases hlocate : t.locate work (Path.join base name) with
  | error e => rfl
  | ok place => exact h.node?_eq_of_locate hnames hkept hname hlocate

/-- Other names lead to what they led to before. -/
theorem read_eq : t'.read work (Path.join base name) = t.read work (Path.join base name) := by
  unfold FileTree.read
  rw [h.locate_eq hnames hkept hname]
  cases hlocate : t.locate work (Path.join base name) with
  | error e => rfl
  | ok place => simp only [bind, Except.bind, h.node?_eq_of_locate hnames hkept hname hlocate]

theorem removable_iff :
    t'.Removable work (Path.join base name) place ↔
      t.Removable work (Path.join base name) place := by
  rw [removable_join_iff hname, removable_join_iff hname, h.locate_eq hnames hkept hname]
  refine and_congr_right fun hlocate => ?_
  rw [h.node?_eq_of_locate hnames hkept hname hlocate]

omit hname hkept

theorem locate_of_removable (hmem : names name)
    (hremovable : t.Removable work (Path.join base name) place) :
    t'.locate work (Path.join base name) = .error (.system .noEntry) := by
  have hname := hnames name hmem
  rcases hremovable.file with ⟨content, mode, hfile⟩
  rcases leadsTo_of_file (Path.segments_join_name base hname) hname.notDots hremovable.located
    hfile with ⟨directory, hleads, rfl⟩
  -- The way is still there, and the entry at its end is not.
  rw [(hleads.of_directories h.keepsDirectories).locate, h.absent _ ⟨name, hmem, hremovable⟩]
  rfl

/-- Names whose files are gone lead nowhere. -/
theorem read_of_removable (hmem : names name)
    (hremovable : t.Removable work (Path.join base name) place) :
    t'.read work (Path.join base name) = .error (.system .noEntry) := by
  unfold FileTree.read
  rw [h.locate_of_removable hnames hmem hremovable]
  rfl

theorem stat?_of_removable (hmem : names name)
    (hremovable : t.Removable work (Path.join base name) place) :
    t'.stat? work (Path.join base name) = none := by
  unfold stat?
  rw [h.locate_of_removable hnames hmem hremovable]

/-- A file that is gone cannot be removed again. -/
theorem without_eq_self (hmem : names name)
    (hremovable : t.Removable work (Path.join base name) place) :
    t'.without work (Path.join base name) = t' := by
  unfold FileTree.without
  split
  · next t'' hremove =>
    rcases exists_removable hremove with ⟨place', hremovable', -⟩
    cases (h.locate_of_removable hnames hmem hremovable).symm.trans hremovable'.located
  · rfl

/-- Another attempt to remove a file adds its name to those whose files are
    gone. -/
theorem without (hname : IsName name.bytes) :
    t.Loses (t'.without work (Path.join base name))
      (t.swept work base fun n => names n ∨ n = name) := by
  by_cases hgone : names name ∧ ∃ place, t.Removable work (Path.join base name) place
  -- The file went away before, and its name is one of those names.
  · rcases hgone with ⟨hmem, place, hremovable⟩
    rw [h.without_eq_self hnames hmem hremovable]
    refine h.congr (swept_congr fun n => or_iff_left_of_imp fun hn => ?_)
    rw [hn]
    exact hmem
  · have hkept : ∀ place, names name → ¬t.Removable work (Path.join base name) place :=
      fun place hmem hremovable => hgone ⟨hmem, place, hremovable⟩
    -- The file can be removed now exactly if it could be removed before.
    have hiff : ∀ place, t'.Removable work (Path.join base name) place ↔
        t.Removable work (Path.join base name) place :=
      fun place => h.removable_iff hnames hkept hname
    unfold FileTree.without
    split
    · next t'' hremove =>
      rcases exists_removable hremove with ⟨place, hremovable, rfl⟩
      refine (h.erase hremovable.ne_nil).congr fun place' => ?_
      rw [swept_or, hremovable.eq_iff, ← hiff]
    · next e hremove =>
      refine h.congr fun place => (swept_or place).trans (or_iff_left_of_imp fun hremovable => ?_)
      -- It could not be removed now, so it could not be removed before.
      cases hremove.symm.trans ((hiff place).mpr hremovable).removed

end Loses

end FileTree

end BrokerClient
