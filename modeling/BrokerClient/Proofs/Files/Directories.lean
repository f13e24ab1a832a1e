import BrokerClient.Proofs.Files.Parents
import BrokerClient.Proofs.Files.Remaining

/-!
# Making Directories

A directory is made at the end of a path. Where its parent is missing, the parents are made
first, from the outermost one on. Three things can come of one attempt
(`FileTree.Attempts`): there is a new directory at a free place, something is there already,
or the way to the place leads nowhere. Only in the second case is the error that something
exists, and unless it is a directory that exists, it is a file.

So an error of this kind, from whatever parent it comes, means that a file stands on the way
of the path (`FileTree.not_isClear_of_makes`). Where no file stands on the way, whoever is
told that there is something already has a directory.

The attempts never take away or change a node, and what they add are directories on the way
of the path, also if the last one fails (`FileTree.Grows`).

## Main definitions

* `FileTree.Names`: What it takes for a path to name an entry of a directory.
* `FileTree.Passes`: The way of a path leads over a place.
* `FileTree.IsClear`: No file stands on the way of a path.
* `FileTree.Attempts`: What becomes of one attempt.
* `FileTree.Makes`: How directories come about, one attempt after the other.
* `FileTree.Grows`: What attempts leave behind.

## Theorems

* `FileTree.locate_of_target`: Paths without a target are not found, for the same reason.
* `FileTree.attempts`: There are no other outcomes of an attempt.
* `FileTree.makes_makeFrom`: Directories are made in this way.
* `FileTree.grows_of_makes`: Nothing is lost, and only directories are added.
* `FileTree.grows_makeDirectories`: What is known when directories have been made.
* `FileTree.isClear_of_isDirectory`: No file stands on the way to a directory.
* `FileTree.makeDirectories_of_isDirectory`: Nothing is done about a directory that is there.
-/

namespace BrokerClient

namespace FileTree

variable {t t' : FileTree} {work : Place} {p q : Path}

/-! ## Targets -/

/-- What it takes for a path to name an entry of a directory, with slashes behind the name or
    without. -/
structure Names (t : FileTree) (work : Place) (p : Path) (front : List (List UInt8))
    (directory : Place) (name : OsText) (idle : List (List UInt8)) : Prop where
  checked : checkPath p = .ok ()
  segments : Path.segments p.bytes = front ++ name.bytes :: idle
  isIdle : ∀ s ∈ idle, s = []
  nonempty : name.bytes ≠ []
  notDot : name.bytes ≠ [Path.dot]
  notDots : name.bytes ≠ [Path.dot, Path.dot]
  short : name.bytes.length ≤ nameLimit
  found : t.follow (start work p) front = .ok directory
  isDirectory : t.isDirectoryAt directory = true

/-- Slashes at the end of a path lead nowhere else. -/
theorem follow_idle {here : Place} (h : t.isDirectoryAt here = true) {idle : List (List UInt8)}
    (hidle : ∀ s ∈ idle, s = []) : t.follow here idle = .ok here := by
  induction idle with
  | nil => rfl
  | cons s idle ih =>
    obtain ⟨hs, hidle⟩ := List.forall_mem_cons.mp hidle
    rw [hs, follow, h]
    exact ih hidle

/-- The segments of a path around the last one that is not empty. -/
theorem exists_idle {segments before : List (List UInt8)} {last : List UInt8}
    (h : segments.reverse.dropWhile (fun s => decide (s = [])) = last :: before) :
    ∃ idle, segments = before.reverse ++ last :: idle ∧ last ≠ [] ∧ ∀ s ∈ idle, s = [] := by
  have hsplit := List.takeWhile_append_dropWhile (p := fun s : List UInt8 => decide (s = []))
    (l := segments.reverse)
  refine ⟨(segments.reverse.takeWhile fun s => decide (s = [])).reverse, ?_, ?_, fun s hs => ?_⟩
  · rw [h] at hsplit
    have hreverse := congrArg List.reverse hsplit
    rw [List.reverse_reverse, List.reverse_append, List.reverse_cons, List.append_assoc,
      List.singleton_append] at hreverse
    exact hreverse.symm
  · have hlast := List.head?_dropWhile_not (fun s : List UInt8 => decide (s = [])) segments.reverse
    rw [h] at hlast
    simpa using hlast
  · have hall := List.all_takeWhile (p := fun s : List UInt8 => decide (s = []))
      (l := segments.reverse)
    exact of_decide_eq_true (List.all_eq_true.mp hall s (List.mem_reverse.mp hs))

theorem ne_nil_of_locate {place : Place} (h : t.locate work p = .ok place) : p.bytes ≠ [] := by
  intro hnil
  have hchecked := (locate_eq_ok_iff.mp h).1
  rcases p with ⟨_ | _⟩
  · cases hchecked
  · cases hnil

/-- A path of slashes only is that of the root. -/
theorem locate_of_slashes (hchecked : checkPath p = .ok ())
    (h : (Path.segments p.bytes).reverse.dropWhile (fun s => decide (s = [])) = []) :
    t.locate work p = .ok [] := by
  have hidle : ∀ s ∈ Path.segments p.bytes, s = [] := by
    intro s hs
    have hsplit := List.takeWhile_append_dropWhile (p := fun s : List UInt8 => decide (s = []))
      (l := (Path.segments p.bytes).reverse)
    rw [h, List.append_nil] at hsplit
    have hall := List.all_takeWhile (p := fun s : List UInt8 => decide (s = []))
      (l := (Path.segments p.bytes).reverse)
    rw [hsplit] at hall
    exact of_decide_eq_true (List.all_eq_true.mp hall s (List.mem_reverse.mpr hs))
  -- A path that is not empty and has no other bytes begins with a slash.
  have habsolute : Path.isAbsolute p = true := by
    rcases p with ⟨_ | ⟨b, bytes⟩⟩
    · cases hchecked
    · refine decide_eq_true (congrArg some (Decidable.byContradiction fun hb => ?_))
      rcases hsegments : Path.segments bytes with _ | ⟨first, rest⟩
      · exact Path.segments_ne_nil bytes hsegments
      · have hfirst := Path.segments_cons hb hsegments
        exact List.cons_ne_nil b first (hidle _ (by rw [hfirst]; exact List.mem_cons_self))
  rw [locate_eq_ok_iff, start_of_isAbsolute habsolute]
  exact ⟨hchecked, follow_idle rfl hidle⟩

/-- A path is followed up to its last name and then on. -/
theorem locate_of_segments {front idle : List (List UInt8)} {last : List UInt8} {directory : Place}
    (hchecked : checkPath p = .ok ()) (hsegments : Path.segments p.bytes = front ++ last :: idle)
    (hfound : t.follow (start work p) front = .ok directory) :
    t.locate work p =
      ((t.next directory last).bind fun place => t.follow place idle).mapError .system := by
  unfold locate
  rw [hchecked, hsegments, follow_append, hfound, ← follow_cons]
  rfl

/-- A path without a target is not found, for the same reason. -/
theorem locate_of_target {e : IoError} (h : t.target work p = .error e) :
    t.locate work p = .error e := by
  unfold target at h
  cases hchecked : checkPath p with
  | error e' =>
    rw [hchecked] at h
    obtain rfl : e' = e := Except.error.inj h
    unfold locate
    rw [hchecked]
    rfl
  | ok u =>
    rw [hchecked] at h
    simp only [bind, Except.bind] at h
    split at h
    · cases h
    · next last before hlast =>
      rcases exists_idle hlast with ⟨idle, hsegments, hne, -⟩
      cases hfollow : t.follow (start work p) before.reverse with
      | error e' =>
        rw [hfollow] at h
        obtain rfl : .system e' = e := Except.error.inj h
        unfold locate
        rw [hchecked, hsegments, follow_append, hfollow]
        rfl
      | ok directory =>
        rw [hfollow] at h
        rw [locate_of_segments hchecked hsegments hfollow]
        unfold next
        rw [mapError_ok] at h
        dsimp only at h
        split at h
        · next hdirectory =>
          rw [if_pos hdirectory, ← Except.error.inj h]
          rfl
        · next hdirectory =>
          split at h
          · cases h
          · next hdot =>
            split at h
            · cases h
            · next hdots =>
              split at h
              · next hlong =>
                rw [if_neg hdirectory, if_neg (by simp [hne, hdot]), if_neg hdots, if_pos hlong,
                  ← Except.error.inj h]
                rfl
              · cases h

/-- A path with a directory as its target is the path of that directory, if every node stands
    in a directory. -/
theorem isDirectory_of_target (hrooted : t.IsRooted) {place : Place}
    (h : t.target work p = .ok (.directory place)) : t.isDirectory work p = true := by
  suffices hlocate : t.locate work p = .ok place ∧ t.isDirectoryAt place = true by
    rcases isDirectoryAt_iff.mp hlocate.2 with ⟨mode, hmode⟩
    unfold isDirectory
    rw [stat?_eq_some_iff.mpr ⟨place, hlocate.1, hmode⟩]
  unfold target at h
  rcases exists_of_bind_eq_ok h with ⟨u, hchecked, h⟩
  dsimp only at h
  split at h
  · next hslashes =>
    cases Except.ok.inj h
    exact ⟨locate_of_slashes hchecked hslashes, rfl⟩
  · next last before hlast =>
    rcases exists_idle hlast with ⟨idle, hsegments, -, hidle⟩
    rcases exists_of_bind_eq_ok h with ⟨directory, hfound, h⟩
    rw [locate_of_segments hchecked hsegments (eq_ok_of_mapError_eq_ok hfound)]
    unfold next
    split at h
    · cases h
    · next hdirectory =>
      have hisDirectory : t.isDirectoryAt directory = true := by simpa using hdirectory
      rw [if_neg hdirectory]
      split at h
      · next hdot =>
        cases Except.ok.inj h
        rw [if_pos (by simp [hdot])]
        exact ⟨congrArg (Except.mapError IoError.system) (follow_idle hisDirectory hidle),
          hisDirectory⟩
      · next hdot =>
        split at h
        -- The parent of a directory is a directory.
        · next hdots =>
          cases Except.ok.inj h
          rcases isDirectoryAt_iff.mp hisDirectory with ⟨mode, hmode⟩
          have hparent := hrooted directory _ hmode
          rw [if_neg (by simp [hdots]), if_pos hdots]
          exact ⟨congrArg (Except.mapError IoError.system) (follow_idle hparent hidle), hparent⟩
        · split at h <;> cases h

/-- A path with an entry as its target names it. -/
theorem exists_names_of_target {directory : Place} {name : OsText} {slashed : Bool}
    (h : t.target work p = .ok (.entry directory name slashed)) :
    ∃ front idle, t.Names work p front directory name idle := by
  unfold target at h
  rcases exists_of_bind_eq_ok h with ⟨u, hchecked, h⟩
  dsimp only at h
  split at h
  · cases h
  · next last before hlast =>
    rcases exists_idle hlast with ⟨idle, hsegments, hne, hidle⟩
    rcases exists_of_bind_eq_ok h with ⟨found, hfound, h⟩
    split at h
    · cases h
    · next hdirectory =>
      split at h
      · cases h
      · next hdot =>
        split at h
        · cases h
        · next hdots =>
          split at h
          · cases h
          · next hlong =>
            cases Except.ok.inj h
            exact ⟨before.reverse, idle, hchecked, hsegments, hidle, hne, hdot, hdots,
              Nat.not_lt.mp hlong, eq_ok_of_mapError_eq_ok hfound, by simpa using hdirectory⟩

/-! ## Entries -/

theorem isDirectory_iff : t.isDirectory work p = true ↔
    ∃ place, t.locate work p = .ok place ∧ t.isDirectoryAt place = true := by
  unfold isDirectory
  constructor
  · intro h
    split at h
    · next mode hstat =>
      rcases stat?_eq_some_iff.mp hstat with ⟨place, hlocate, hnode⟩
      exact ⟨place, hlocate, isDirectoryAt_iff.mpr ⟨mode, hnode⟩⟩
    · cases h
  · rintro ⟨place, hlocate, hdirectory⟩
    rcases isDirectoryAt_iff.mp hdirectory with ⟨mode, hnode⟩
    rw [stat?_eq_some_iff.mpr ⟨place, hlocate, hnode⟩]

section Names

variable {front idle : List (List UInt8)} {directory : Place} {name : OsText}

theorem Names.next_eq (h : t.Names work p front directory name idle) :
    t.next directory name.bytes = if (t.node? (directory ++ [name])).isSome = true
      then .ok (directory ++ [name]) else .error .noEntry := by
  unfold next
  rw [h.isDirectory, if_neg (by decide), if_neg (by simp [h.nonempty, h.notDot]), if_neg h.notDots,
    if_neg (Nat.not_lt.mpr h.short)]

/-- An entry without a node is not found. -/
theorem Names.locate_of_free (h : t.Names work p front directory name idle)
    (hfree : t.node? (directory ++ [name]) = none) :
    t.locate work p = .error (.system .noEntry) := by
  rw [locate_of_segments h.checked h.segments h.found, h.next_eq, hfree]
  rfl

theorem Names.isDirectory_of_node (h : t.Names work p front directory name idle)
    (hdirectory : t.isDirectoryAt (directory ++ [name]) = true) : t.isDirectory work p = true := by
  refine isDirectory_iff.mpr ⟨_, ?_, hdirectory⟩
  rw [locate_of_segments h.checked h.segments h.found, h.next_eq,
    isSome_of_isDirectoryAt hdirectory, if_pos rfl]
  exact congrArg (Except.mapError IoError.system) (follow_idle hdirectory h.isIdle)

/-- A path names the same entry in every tree that has the directories on the way. -/
theorem Names.of_directories (h : t.Names work p front directory name idle)
    (hdir : t.KeepsDirectories t') : t'.Names work p front directory name idle :=
  { h with
    found := follow_of_directories hdir h.found h.isDirectory
    isDirectory := hdir directory h.isDirectory }

/-- A directory that is put at the free place of an entry is found there. -/
theorem Names.insert (h : t.Names work p front directory name idle)
    (hfree : t.node? (directory ++ [name]) = none) (mode : Nat) :
    let made := t.insert (directory ++ [name]) (.directory mode)
    made.Names work p front directory name idle ∧ made.isDirectoryAt (directory ++ [name]) = true :=
  ⟨h.of_directories (keepsDirectories_insert (isDirectoryAt_of_none hfree) _),
    isDirectoryAt_iff.mpr ⟨mode, node?_insert_self (ne_nil_of_node? hfree) _⟩⟩

end Names

/-! ## On the way -/

/-- The way of a path leads over a place. -/
def Passes (t : FileTree) (work : Place) (p : Path) (place : Place) : Prop :=
  ∃ front, front <+: Path.segments p.bytes ∧ t.follow (start work p) front = .ok place

/-- No file stands on the way of a path. -/
def IsClear (t : FileTree) (work : Place) (p : Path) : Prop :=
  ∀ place, t.Passes work p place → ∀ content mode, t.node? place ≠ some (.file content mode)

theorem Passes.mono (h : t.IsWithin t') {place : Place} (hplace : t.Passes work p place) :
    t'.Passes work p place := by
  rcases hplace with ⟨front, hfront, hfollow⟩
  exact ⟨front, hfront, follow_of_isWithin h hfollow⟩

/-- The way of a path leads over the entries that its fronts name. -/
theorem passes_of_names {front idle : List (List UInt8)} {directory : Place} {name : OsText}
    (h : t.Names work q front directory name idle) (hp : p.bytes ≠ []) (hq : q.IsFrontOf p)
    (hnode : (t.node? (directory ++ [name])).isSome = true) :
    t.Passes work p (directory ++ [name]) := by
  have hmem : name.bytes ∈ Path.segments q.bytes := by
    rw [h.segments]
    exact List.mem_append_right _ List.mem_cons_self
  -- The empty path and the root have no segments that are names.
  have hempty : q.bytes ≠ [] := fun hempty => by
    rw [hempty] at hmem
    exact h.nonempty (List.mem_singleton.mp hmem)
  have hroot : q.bytes ≠ [Path.slash] := fun hroot => by
    rw [hroot] at hmem
    refine h.nonempty ?_
    rcases List.mem_cons.mp hmem with hname | hname
    · exact hname
    · exact List.mem_singleton.mp hname
  have hstart : start work p = start work q := by
    unfold start
    rw [hq.isAbsolute hp hempty hroot]
  have hprefix := (hq.resolve_left hempty).resolve_left hroot
  refine ⟨front ++ [name.bytes], ?_, ?_⟩
  · refine List.IsPrefix.trans ⟨idle, ?_⟩ hprefix
    rw [h.segments, List.append_assoc, List.singleton_append]
  · rw [hstart, follow_append, h.found]
    change t.follow directory [name.bytes] = _
    rw [follow_cons, h.next_eq, hnode, if_pos rfl]
    rfl

/-- No file stands on the way to a directory. -/
theorem isClear_of_isDirectory (h : t.isDirectory work p = true) : t.IsClear work p := by
  rcases isDirectory_iff.mp h with ⟨there, hlocate, hthere⟩
  rcases locate_eq_ok_iff.mp hlocate with ⟨-, hfollow⟩
  rintro place ⟨front, ⟨rest, hrest⟩, hplace⟩ content mode hfile
  have hno := isDirectoryAt_of_file hfile
  rw [← hrest, follow_append, hplace] at hfollow
  change t.follow place rest = .ok there at hfollow
  cases rest with
  | nil =>
    rw [Except.ok.inj hfollow, hthere] at hno
    cases hno
  | cons s rest =>
    -- A file leads nowhere.
    rw [follow, hno] at hfollow
    cases hfollow

/-! ## Attempts -/

/-- What becomes of an attempt to make a directory: it is made at a free place, something is
    there already, or there is no way to the place. -/
inductive Attempts (t : FileTree) (work : Place) (mode : Nat) (p : Path) :
    Except IoError FileTree → Prop
  | made {front idle : List (List UInt8)} {directory : Place} {name : OsText}
    (names : t.Names work p front directory name idle)
    (free : t.node? (directory ++ [name]) = none) :
    Attempts t work mode p (.ok (t.insert (directory ++ [name]) (.directory mode)))
  | found (there : t.isDirectory work p = true) :
    Attempts t work mode p (.error (.system .alreadyExists))
  | taken {front idle : List (List UInt8)} {directory : Place} {name : OsText}
    {content : List UInt8} {mode' : Nat} (names : t.Names work p front directory name idle)
    (file : t.node? (directory ++ [name]) = some (.file content mode')) :
    Attempts t work mode p (.error (.system .alreadyExists))
  | lost {e : IoError} (lost : t.locate work p = .error e) : Attempts t work mode p (.error e)

theorem attempts (hrooted : t.IsRooted) (work : Place) (mode : Nat) (p : Path) :
    t.Attempts work mode p (t.makeDirectory work p mode) := by
  unfold makeDirectory
  cases htarget : t.target work p with
  | error e => exact .lost (locate_of_target htarget)
  | ok target =>
    cases target with
    | directory place => exact .found (isDirectory_of_target hrooted htarget)
    | entry directory name slashed =>
      rcases exists_names_of_target htarget with ⟨front, idle, hnames⟩
      simp only [bind, Except.bind]
      cases hnode : t.node? (directory ++ [name]) with
      | none => exact .made hnames hnode
      | some node =>
        cases node with
        | file content mode' => exact .taken hnames hnode
        | directory mode' =>
          exact .found (hnames.isDirectory_of_node (isDirectoryAt_iff.mpr ⟨mode', hnode⟩))

theorem kind_of_follow {here : Place} {s : List (List UInt8)} {e : Errno}
    (h : t.follow here s = .error e) : e.kind ≠ .alreadyExists := by
  induction s generalizing here with
  | nil => cases h
  | cons first s ih =>
    rw [follow_cons] at h
    cases hnext : t.next here first with
    | ok place =>
      rw [hnext] at h
      exact ih h
    | error e' =>
      rw [hnext] at h
      obtain rfl : e' = e := Except.error.inj h
      unfold next at hnext
      repeat' split at hnext
      all_goals cases hnext <;> decide

/-- Nothing exists where a path leads nowhere. -/
theorem kind_of_locate {e : IoError} (h : t.locate work p = .error e) :
    e.kind ≠ .alreadyExists := by
  unfold locate at h
  cases hchecked : checkPath p with
  | error e' =>
    rw [hchecked] at h
    obtain rfl : e' = e := Except.error.inj h
    unfold checkPath at hchecked
    repeat' split at hchecked
    all_goals cases hchecked <;> decide
  | ok u =>
    rw [hchecked] at h
    rcases exists_of_mapError_eq_error h with ⟨errno, hfollow, rfl⟩
    exact kind_of_follow hfollow

/-! ## What is left behind -/

/-- What attempts to make directories on the way of a path leave behind. -/
structure Grows (work : Place) (mode : Nat) (p : Path) (t t' : FileTree) : Prop where
  kept : t.IsWithin t'
  added : ∀ place node, t'.node? place = some node →
    t.node? place = some node ∨ node = .directory mode ∧ t'.Passes work p place

variable {mode : Nat}

theorem Grows.refl (t : FileTree) : t.Grows work mode p t :=
  ⟨fun _ _ hnode => hnode, fun _ _ hnode => .inl hnode⟩

theorem Grows.trans {t'' : FileTree} (h : t.Grows work mode p t')
    (h' : t'.Grows work mode p t'') : t.Grows work mode p t'' where
  kept place node hnode := h'.kept place node (h.kept place node hnode)
  added place node hnode := by
    rcases h'.added place node hnode with hbefore | hnew
    · exact (h.added place node hbefore).imp_right fun hmade =>
        ⟨hmade.1, hmade.2.mono h'.kept⟩
    · exact .inr hnew

/-- A directory at the free place of an entry stands in a directory. -/
theorem IsRooted.insert (hrooted : t.IsRooted) {directory : Place} {name : OsText}
    (hdirectory : t.isDirectoryAt directory = true)
    (hfree : t.node? (directory ++ [name]) = none) :
    (t.insert (directory ++ [name]) (.directory mode)).IsRooted := by
  have hkeeps := keepsDirectories_insert (isDirectoryAt_of_none hfree) (.directory mode)
  intro place node hnode
  by_cases hplace : place = directory ++ [name]
  · rw [hplace, List.dropLast_concat]
    exact hkeeps directory hdirectory
  · rw [node?_insert_of_ne hplace] at hnode
    exact hkeeps _ (hrooted place node hnode)

/-- One attempt adds a directory at the end of a front of the path, or nothing. -/
theorem grows_makeOrFind (hrooted : t.IsRooted) (hp : p.bytes ≠ []) (hq : q.IsFrontOf p) :
    (t.makeOrFind work mode q).1.IsRooted ∧ t.Grows work mode p (t.makeOrFind work mode q).1 := by
  have h := attempts hrooted work mode q
  unfold makeOrFind
  generalize t.makeDirectory work q mode = made at h ⊢
  cases h with
  | @made front idle directory name names free =>
    rcases names.insert free mode with ⟨hnames, hnew⟩
    refine ⟨hrooted.insert names.isDirectory free, fun place node hnode => ?_,
      fun place node hnode => ?_⟩
    · have hne : place ≠ directory ++ [name] := fun heq => by
        rw [heq, free] at hnode
        cases hnode
      rw [node?_insert_of_ne hne]
      exact hnode
    · by_cases hplace : place = directory ++ [name]
      · rw [hplace, node?_insert_self (ne_nil_of_node? free)] at hnode
        rw [hplace]
        exact .inr ⟨(Option.some.inj hnode).symm,
          passes_of_names hnames hp hq (isSome_of_isDirectoryAt hnew)⟩
      · rw [node?_insert_of_ne hplace] at hnode
        exact .inl hnode
  | found there => exact ⟨hrooted, .refl t⟩
  | taken names file => exact ⟨hrooted, .refl t⟩
  | lost lost => exact ⟨hrooted, .refl t⟩

/-- After an attempt that succeeds there is a directory. -/
theorem isDirectory_of_makeOrFind (hrooted : t.IsRooted)
    (hok : (t.makeOrFind work mode q).2 = .ok ()) :
    (t.makeOrFind work mode q).1.isDirectory work q = true := by
  have h := attempts hrooted work mode q
  unfold makeOrFind at hok ⊢
  generalize t.makeDirectory work q mode = made at h hok ⊢
  cases h with
  | made names free =>
    rcases names.insert free mode with ⟨hnames, hnew⟩
    exact hnames.isDirectory_of_node hnew
  | found there => exact there
  | taken names file =>
    dsimp only at hok
    split at hok
    · next there => exact there
    · cases hok
  | lost lost =>
    dsimp only at hok
    split at hok
    · next there => exact there
    · cases hok

/-- An attempt that fails because something exists has met a file. -/
theorem not_isClear_of_makeOrFind (hrooted : t.IsRooted) (hp : p.bytes ≠ [])
    (hq : q.IsFrontOf p) {e : IoError} (herror : (t.makeOrFind work mode q).2 = .error e)
    (hkind : e.kind = .alreadyExists) : ¬(t.makeOrFind work mode q).1.IsClear work p := by
  have h := attempts hrooted work mode q
  unfold makeOrFind at herror ⊢
  generalize t.makeDirectory work q mode = made at h herror ⊢
  cases h with
  | made names free => cases herror
  | found there =>
    dsimp only at herror
    rw [there, if_pos rfl] at herror
    cases herror
  | taken names file =>
    intro hclear
    refine hclear _ (passes_of_names names hp hq ?_) _ _ file
    rw [file]
    rfl
  | lost lost =>
    dsimp only at herror
    split at herror
    · cases herror
    · rw [Except.error.inj herror] at lost
      exact absurd hkind (kind_of_locate lost)

/-! ## Directories with their parents -/

/-- How the directory at the head of a list of ancestors comes about: by an attempt of its
    own, perhaps after the others, unless these have failed. -/
inductive Makes (t : FileTree) (work : Place) (mode : Nat) :
    List Path → FileTree → Except IoError Unit → Prop
  | nothing : Makes t work mode [] t
    (.error (.reported .uncategorized "failed to create whole tree" []))
  | empty {p : Path} {parents : List Path} (empty : p.bytes = []) :
    Makes t work mode (p :: parents) t (.ok ())
  | attempt {p : Path} {parents : List Path} :
    Makes t work mode (p :: parents) (t.makeOrFind work mode p).1 (t.makeOrFind work mode p).2
  | behind {p : Path} {parents : List Path} {t' : FileTree}
    (made : Makes t work mode parents t' (.ok ())) :
    Makes t work mode (p :: parents) (t'.makeOrFind work mode p).1 (t'.makeOrFind work mode p).2
  | stuck {p : Path} {parents : List Path} {t' : FileTree} {e : IoError}
    (failed : Makes t work mode parents t' (.error e)) :
    Makes t work mode (p :: parents) t' (.error e)

/-- Directories are made in this way. -/
theorem makes_makeFrom (t : FileTree) (work : Place) (mode : Nat) (paths : List Path) :
    t.Makes work mode paths (t.makeFrom work mode paths).1 (t.makeFrom work mode paths).2 := by
  induction paths with
  | nil => exact .nothing
  | cons p parents ih =>
    rw [makeFrom]
    split
    · next hempty => exact .empty (List.isEmpty_iff.mp hempty)
    · split
      · next made hmade =>
        have hattempt : t.makeOrFind work mode p = (made, .ok ()) := by
          unfold makeOrFind
          rw [hmade]
        rw [← hattempt]
        exact .attempt
      · split
        · generalize t.makeFrom work mode parents = result at ih ⊢
          rcases result with ⟨t', e | u⟩
          · exact .stuck ih
          · exact .behind ih
        · exact .attempt

/-- No node is lost or changed, and only directories on the way are added. -/
theorem grows_of_makes {paths : List Path} {result : Except IoError Unit}
    (h : t.Makes work mode paths t' result) (hrooted : t.IsRooted) (hp : p.bytes ≠ [])
    (hpaths : ∀ q ∈ paths, q.IsFrontOf p) : t'.IsRooted ∧ t.Grows work mode p t' := by
  induction h with
  | nothing => exact ⟨hrooted, .refl t⟩
  | empty _ => exact ⟨hrooted, .refl t⟩
  | attempt => exact grows_makeOrFind hrooted hp (hpaths _ List.mem_cons_self)
  | behind _ ih =>
    rcases ih fun q hq => hpaths q (List.mem_cons_of_mem _ hq) with ⟨hrooted', hgrows⟩
    rcases grows_makeOrFind hrooted' hp (hpaths _ List.mem_cons_self) with ⟨hrooted'', hgrows'⟩
    exact ⟨hrooted'', hgrows.trans hgrows'⟩
  | stuck _ ih => exact ih fun q hq => hpaths q (List.mem_cons_of_mem _ hq)

/-- What fails because something exists has met a file on the way. -/
theorem not_isClear_of_makes {paths : List Path} {e : IoError}
    (h : t.Makes work mode paths t' (.error e)) (hrooted : t.IsRooted) (hp : p.bytes ≠ [])
    (hpaths : ∀ q ∈ paths, q.IsFrontOf p) (hkind : e.kind = .alreadyExists) :
    ¬t'.IsClear work p := by
  generalize hresult : (Except.error e : Except IoError Unit) = result at h
  induction h with
  | nothing =>
    rw [Except.error.inj hresult] at hkind
    cases hkind
  | empty _ => cases hresult
  | attempt =>
    exact not_isClear_of_makeOrFind hrooted hp (hpaths _ List.mem_cons_self) hresult.symm hkind
  | behind made _ =>
    rcases grows_of_makes made hrooted hp fun q hq => hpaths q (List.mem_cons_of_mem _ hq) with
      ⟨hrooted', -⟩
    exact not_isClear_of_makeOrFind hrooted' hp (hpaths _ List.mem_cons_self) hresult.symm hkind
  | stuck _ ih => exact ih (fun q hq => hpaths q (List.mem_cons_of_mem _ hq)) hresult

/-- What succeeds has made a directory of the first path, or found one there. -/
theorem isDirectory_of_makes {parents : List Path}
    (h : t.Makes work mode (p :: parents) t' (.ok ())) (hrooted : t.IsRooted) (hp : p.bytes ≠ [])
    (hpaths : ∀ q ∈ p :: parents, q.IsFrontOf p) : t'.isDirectory work p = true := by
  generalize hresult : (Except.ok () : Except IoError Unit) = result at h
  cases h with
  | empty hempty => exact absurd hempty hp
  | attempt => exact isDirectory_of_makeOrFind hrooted hresult.symm
  | behind made =>
    rcases grows_of_makes made hrooted hp fun q hq => hpaths q (List.mem_cons_of_mem _ hq) with
      ⟨hrooted', -⟩
    exact isDirectory_of_makeOrFind hrooted' hresult.symm
  | stuck _ => cases hresult

theorem exists_ancestors (p : Path) : ∃ parents, ancestors p = p :: parents := by
  unfold ancestors
  cases p.bytes.length with
  | zero => exact ⟨[], rfl⟩
  | succ n =>
    rw [ancestors.go]
    split
    · exact ⟨_, rfl⟩
    · exact ⟨_, rfl⟩

/-- Directories are added on the way of the path and nothing is lost. If that succeeds, there is
    a directory at its end, and if something that exists is the obstacle, it is a file. -/
theorem grows_makeDirectories (hrooted : t.IsRooted) (hp : p.bytes ≠ [])
    {result : Except IoError Unit} (h : t.makeDirectories work p mode = (t', result)) :
    t'.IsRooted ∧ t.Grows work mode p t' ∧
      (result = .ok () → t'.isDirectory work p = true) ∧
      ∀ e, result = .error e → e.kind = .alreadyExists → ¬t'.IsClear work p := by
  have hfronts : ∀ q ∈ ancestors p, q.IsFrontOf p := fun q hq => isFrontOf_of_mem_ancestors hq
  rcases exists_ancestors p with ⟨parents, hparents⟩
  have hmakes := makes_makeFrom t work mode (ancestors p)
  unfold makeDirectories at h
  rw [h, hparents] at hmakes
  rw [hparents] at hfronts
  rcases grows_of_makes hmakes hrooted hp hfronts with ⟨hrooted', hgrows⟩
  refine ⟨hrooted', hgrows, ?_, ?_⟩
  · rintro rfl
    exact isDirectory_of_makes hmakes hrooted hp hfronts
  · rintro e rfl
    exact not_isClear_of_makes hmakes hrooted hp hfronts

/-- Nothing is done about the empty path. -/
theorem makeDirectories_of_empty (h : p.bytes = []) (t : FileTree) (work : Place) (mode : Nat) :
    t.makeDirectories work p mode = (t, .ok ()) := by
  rcases exists_ancestors p with ⟨parents, hparents⟩
  unfold makeDirectories
  rw [hparents, makeFrom, if_pos (List.isEmpty_iff.mpr h)]

/-- Nothing is done about a directory that is there. -/
theorem makeDirectories_of_isDirectory (hrooted : t.IsRooted) (h : t.isDirectory work p = true)
    (mode : Nat) : t.makeDirectories work p mode = (t, .ok ()) := by
  rcases exists_ancestors p with ⟨parents, hparents⟩
  have hmade : t.makeDirectory work p mode = .error (.system .alreadyExists) := by
    have hattempts := attempts hrooted work mode p
    generalize t.makeDirectory work p mode = made at hattempts ⊢
    rcases isDirectory_iff.mp h with ⟨place, hlocate, -⟩
    cases hattempts with
    | made names free =>
      rw [names.locate_of_free free] at hlocate
      cases hlocate
    | found there => rfl
    | taken names file => rfl
    | lost lost =>
      rw [lost] at hlocate
      cases hlocate
  have hattempt : t.makeOrFind work mode p = (t, .ok ()) := by
    unfold makeOrFind
    rw [hmade, h]
    rfl
  unfold makeDirectories
  rw [hparents, makeFrom, hmade]
  dsimp only
  rw [if_neg (show ¬(IoError.system .alreadyExists).isNotFound = true by decide), hattempt]
  split <;> rfl

end FileTree

end BrokerClient
