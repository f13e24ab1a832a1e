import BrokerClient.Proofs.Files.Directories
import BrokerClient.Proofs.Host.Action
import BrokerClient.StateDirectory

/-!
# Preparing the State Directory

The state directory is made with its parents, and where something exists already that is
taken for the directory. Two things can go wrong with that. The empty path is no directory,
but nothing is missing on its way, so nothing is made and nobody complains. And what exists
may be a file, at the end of the path or further up. There is no directory then, and again
nobody complains.

There are no other cases (`StateDirectory.ensure_makes_directory_iff`). Whatever comes out,
no node is lost or changed, and what is new are directories on the way of the path.

## Theorems

* `StateDirectory.run_ensure`: What preparing does, and which errors it reports.
* `StateDirectory.ensure_makes_directory_iff`: When there is a directory afterwards.
* `StateDirectory.ensure_accepts_file`: A file is taken for the directory.
-/

namespace BrokerClient

namespace StateDirectory

/-- Preparing makes directories. Only the errors that say that something exists are kept
    back. -/
theorem run_ensure (d : StateDirectory) (m : Machine) :
    d.ensure.run m =
      let result := m.files.makeDirectories m.workDirectory d.path mode
      (match result.2 with
        | .ok () => .ok ()
        | .error e => if e.kind = .alreadyExists then .ok () else .error ⟨d.path, e⟩,
        { m with files := result.1 }) := by
  have hmake : (Action.makeDirectories d.path mode).run m =
      ((m.files.makeDirectories m.workDirectory d.path mode).2,
        { m with files := (m.files.makeDirectories m.workDirectory d.path mode).1 }) := rfl
  unfold ensure
  rw [Action.run_bind, hmake]
  dsimp only
  rcases (m.files.makeDirectories m.workDirectory d.path mode).2 with e | u
  · by_cases hkind : e.kind = .alreadyExists
    · simp only [hkind, if_true]
      rfl
    · simp only [hkind, if_false]
      rfl
  · rfl

variable {d : StateDirectory} {m m' : Machine}

/-- Nothing is done about a directory that is there. -/
theorem run_ensure_of_isDirectory (hrooted : m.files.IsRooted)
    (h : m.files.isDirectory m.workDirectory d.path = true) : d.ensure.run m = (.ok (), m) := by
  rw [run_ensure, FileTree.makeDirectories_of_isDirectory hrooted h]

/-- Preparing the state directory without an error. There is a directory afterwards if and only
    if the path is not empty and no file stands on its way. If there was one before, nothing
    has changed. In any case all nodes are kept as they were, and what is new are directories
    on the way of the path that belong to their owner only. Unless a file stands on the way,
    preparing it again changes nothing, and there is no error. -/
theorem ensure_makes_directory_iff (d : StateDirectory) (m m' : Machine)
    (hrooted : m.files.IsRooted) (h : d.ensure.run m = (.ok (), m')) :
    (m'.files.isDirectory m.workDirectory d.path = true ↔
      d.path.bytes ≠ [] ∧ m'.files.IsClear m.workDirectory d.path) ∧
    (m.files.isDirectory m.workDirectory d.path = true → m' = m) ∧
    m' = { m with files := m'.files } ∧
    m.files.Grows m.workDirectory 0o700 d.path m'.files ∧
    (m'.files.IsClear m.workDirectory d.path → d.ensure.run m' = (.ok (), m')) := by
  have hsame : m.files.isDirectory m.workDirectory d.path = true → m' = m := fun hdirectory => by
    rw [run_ensure_of_isDirectory hrooted hdirectory] at h
    exact (Prod.mk.inj h).2.symm
  rw [run_ensure] at h
  by_cases hempty : d.path.bytes = []
  · have hnothing : d.ensure.run m = (.ok (), m) := by
      rw [run_ensure, FileTree.makeDirectories_of_empty hempty]
    rw [← run_ensure, hnothing] at h
    obtain rfl : m = m' := (Prod.mk.inj h).2
    refine ⟨⟨fun hdirectory => ?_, fun hclear => absurd hempty hclear.1⟩, hsame, rfl, .refl _,
      fun _ => hnothing⟩
    rcases FileTree.isDirectory_iff.mp hdirectory with ⟨place, hlocate, -⟩
    exact absurd hempty (FileTree.ne_nil_of_locate hlocate)
  · generalize hmake : m.files.makeDirectories m.workDirectory d.path mode = made at h
    rcases made with ⟨files, result⟩
    rcases FileTree.grows_makeDirectories hrooted hempty hmake with
      ⟨hrooted', hgrows, hsucceeds, hfails⟩
    rcases Prod.mk.inj h with ⟨hresult, rfl⟩
    have hmade : files.IsClear m.workDirectory d.path →
        files.isDirectory m.workDirectory d.path = true := by
      intro hclear
      cases result with
      | ok u => exact hsucceeds rfl
      | error e =>
        -- An error that was kept back has met a file.
        dsimp only at hresult
        split at hresult
        · next hkind => exact absurd hclear (hfails e rfl hkind)
        · cases hresult
    exact ⟨⟨fun hdirectory => ⟨hempty, FileTree.isClear_of_isDirectory hdirectory⟩,
      fun hclear => hmade hclear.2⟩, hsame, rfl, hgrows,
      fun hclear => run_ensure_of_isDirectory hrooted' (hmade hclear)⟩

/-- Two parents are missing, and one of them is left again. -/
theorem ensure_makes_directory_parents :
    let d : StateDirectory := ⟨"/a/../b/state/"⟩
    let m : Machine := { (default : Machine) with files := ⟨[(["b"], .directory 0o755)]⟩ }
    let files : FileTree := ⟨[(["b", "state"], .directory 0o700), (["a"], .directory 0o700),
      (["b"], .directory 0o755)]⟩
    d.ensure.run m = (.ok (), { m with files }) ∧
      files.isDirectory m.workDirectory d.path = true ∧
      m.files.Grows m.workDirectory 0o700 d.path files ∧
      d.ensure.run { m with files } = (.ok (), { m with files }) := by
  intro d m files
  have h : d.ensure.run m = (.ok (), { m with files }) := rfl
  have hrooted : m.files.IsRooted := FileTree.isRooted_of_all (by decide)
  have hdirectory : files.isDirectory m.workDirectory d.path = true := by decide
  rcases ensure_makes_directory_iff d m _ hrooted h with ⟨hiff, -, -, hgrows, hagain⟩
  exact ⟨h, hdirectory, hgrows, hagain (hiff.mp hdirectory).2⟩

/-- A file is taken for the directory, and so is the empty path, which leads nowhere. A file
    further up is met only after its parents were made, and then the second call fails. -/
theorem ensure_accepts_file :
    let m : Machine := { (default : Machine) with files := ⟨[(["state"], .file [] 0o600)]⟩ }
    let atFile : StateDirectory := ⟨"/state"⟩
    let empty : StateDirectory := ⟨""⟩
    let below : StateDirectory := ⟨"/new/../state/cookies"⟩
    m.files.IsRooted ∧
      (atFile.ensure.run m = (.ok (), m) ∧
        m.files.isDirectory m.workDirectory atFile.path = false) ∧
      (empty.ensure.run m = (.ok (), m) ∧
        m.files.isDirectory m.workDirectory empty.path = false) ∧
      ∃ m', below.ensure.run m = (.ok (), m') ∧
        (below.ensure.run m').1 = .error ⟨below.path, .system .notDirectory⟩ := by
  intro m atFile empty below
  exact ⟨FileTree.isRooted_of_all (by decide), ⟨rfl, by decide⟩, ⟨rfl, by decide⟩, _, rfl, rfl⟩

end StateDirectory

end BrokerClient
