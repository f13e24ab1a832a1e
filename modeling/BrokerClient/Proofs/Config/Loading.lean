import BrokerClient.Config.Loading
import BrokerClient.Proofs.Files.Remaining

/-!
# Configurations That Are Loaded

Loading reports every fault that there is, so a configuration is loaded exactly if the
flags can be read, a file that is used was found without a fault, and the layers make a
configuration (`Config.load_eq_ok_iff`).

The file is the one that a flag names, or else the first of the places with a file that can
be loaded. If there is no such file, none of the places has a file at all, because a file
that cannot be loaded would have been a fault.

## Main definitions

* `Config.Loaded`: What is known about a configuration that was loaded.
* `Config.Makes`: What is known about a configuration that layers make.
* `Config.IsBase`: What is known about its file.

## Theorems

* `Config.load_eq_ok_iff`: When a configuration is loaded.
* `Config.makes_of_ofLayers?`: The settings of a configuration that layers make.
* `Config.isBase_of_loaded`: The file of a configuration that was loaded.
* `Config.exists_table_of_readLayers`: The uppermost layer of a file is its own table.
* `Config.no_file_of_loaded`: Without a file there is none at any place.
-/

namespace BrokerClient

namespace Config

variable {m : Machine} {arguments : List OsText} {config : Config}

/-- What is known about a configuration that was loaded. -/
structure Loaded (m : Machine) (arguments : List OsText) (config : Config) : Prop where
  flags : Flags.parse arguments = .ok (readFlags arguments).1
  file : (chooseFile m (readFlags arguments).1.filePath).2 = []
  values : ofLayers? (allLayers m (baseFile? m arguments) (readFlags arguments).1.settings) =
    some config

theorem readFlags_snd_eq_nil_iff :
    (readFlags arguments).2 = [] ↔ Flags.parse arguments = .ok (readFlags arguments).1 := by
  unfold readFlags
  cases Flags.parse arguments with
  | ok flags => exact iff_of_true rfl rfl
  | error e => exact ⟨nofun, nofun⟩

/-- A configuration is loaded exactly if there is no fault. -/
theorem load_eq_ok_iff : load m arguments = .ok config ↔ Loaded m arguments config := by
  unfold load
  simp only
  cases hlayers : ofLayers? (allLayers m (chooseFile m (readFlags arguments).1.filePath).1
      (readFlags arguments).1.settings) with
  | none =>
    refine ⟨fun h => ?_, fun h => ?_⟩
    · simp at h
    · cases hlayers.symm.trans h.values
  | some made =>
    constructor
    · intro h
      split at h
      · next hfaults =>
        simp only [List.append_nil, List.append_eq_nil_iff, List.map_eq_nil_iff] at hfaults
        obtain rfl := Except.ok.inj h
        exact ⟨readFlags_snd_eq_nil_iff.mp hfaults.1, hfaults.2, hlayers⟩
      · cases h
    · intro h
      rw [readFlags_snd_eq_nil_iff.mpr h.flags, h.file]
      exact congrArg Except.ok (Option.some.inj (hlayers.symm.trans h.values))

/-- What is known about a configuration that layers make. -/
structure Makes (layers : List Layer) (config : Config) : Prop where
  stateDir : (settingOf "state_dir" layers).text? = some config.stateDir
  shareDir : (settingOf "share_dir" layers).text? = some config.shareDir
  servers : (serversOf layers).mapM Server.ofJson? = some config.servers
  logFilter : (settingOf "log_filter" layers).text? = some config.logFilter
  logFormat : logFormat? (settingOf "log_format" layers) = some config.logFormat
  makeJobs : makeJobs? (settingOf "make_jobs" layers) = some config.makeJobs
  makeProgram : (settingOf "make_program" layers).text? = some config.makeProgram

theorem makes_of_ofLayers? {layers : List Layer} (h : ofLayers? layers = some config) :
    Makes layers config := by
  unfold ofLayers? at h
  simp only [Option.bind_eq_bind] at h
  rcases Option.bind_eq_some_iff.mp h with ⟨_, hstate, h⟩
  rcases Option.bind_eq_some_iff.mp h with ⟨_, hshare, h⟩
  rcases Option.bind_eq_some_iff.mp h with ⟨_, hservers, h⟩
  rcases Option.bind_eq_some_iff.mp h with ⟨_, hfilter, h⟩
  rcases Option.bind_eq_some_iff.mp h with ⟨_, hformat, h⟩
  rcases Option.bind_eq_some_iff.mp h with ⟨_, hjobs, h⟩
  rcases Option.bind_eq_some_iff.mp h with ⟨_, hprogram, h⟩
  rw [← Option.some.inj h]
  exact ⟨hstate, hshare, hservers, hfilter, hformat, hjobs, hprogram⟩

/-! ## The file that counts -/

theorem isFile_of_read {p : Path} {content : List UInt8}
    (h : m.files.read m.workDirectory p = .ok content) :
    m.files.isFile m.workDirectory p = true := by
  rcases exists_of_bind_eq_ok h with ⟨place, hlocate, hnode⟩
  split at hnode
  · next content mode hfile =>
    exact FileTree.isFile_iff.mpr
      ⟨content, mode, FileTree.stat?_eq_some_iff.mpr ⟨place, hlocate, hfile⟩⟩
  · cases hnode
  · cases hnode

theorem exists_read_of_isFile {p : Path} (h : m.files.isFile m.workDirectory p = true) :
    ∃ content, m.files.read m.workDirectory p = .ok content := by
  rcases FileTree.isFile_iff.mp h with ⟨content, mode, hstat⟩
  rcases FileTree.stat?_eq_some_iff.mp hstat with ⟨place, hlocate, hnode⟩
  refine ⟨content, ?_⟩
  unfold FileTree.read
  rw [hlocate]
  simp only [bind, Except.bind, hnode]

/-- A place without a file has no layers. -/
theorem readLayers_of_not_isFile {p : Path} (h : m.files.isFile m.workDirectory p = false) :
    readLayers m p = .ok none := by
  unfold readLayers readLayersFrom
  split
  · rfl
  · next content hread =>
    rw [isFile_of_read hread] at h
    cases h

/-- A file has layers or is at fault. -/
theorem readLayers_ne_none {p : Path} (h : m.files.isFile m.workDirectory p = true) :
    readLayers m p ≠ .ok none := by
  rcases exists_read_of_isFile h with ⟨content, hread⟩
  intro hnone
  unfold readLayers readLayersFrom at hnone
  rw [hread] at hnone
  simp only at hnone
  split at hnone
  · cases hnone
  · split at hnone
    · cases hnone
    · rcases exists_of_bind_eq_ok hnone with ⟨base, -, hnone⟩
      cases base with
      | none => cases hnone
      | some base =>
        rcases exists_of_bind_eq_ok hnone with ⟨layers, -, hnone⟩
        cases layers <;> cases hnone

theorem isFile_of_readLayers {p : Path} {layers : List Layer}
    (h : readLayers m p = .ok (some layers)) : m.files.isFile m.workDirectory p = true := by
  cases hfile : m.files.isFile m.workDirectory p with
  | true => rfl
  | false =>
    rw [readLayers_of_not_isFile hfile] at h
    cases h

/-- What is found is one of the places, and it can be loaded. -/
theorem of_loadFirst_eq_some {places : List Path} {file : BaseFile}
    (h : (loadFirst m places).1 = some file) :
    file.path ∈ places ∧ readLayers m file.path = .ok (some file.layers) := by
  induction places with
  | nil => cases h
  | cons p places ih =>
    rw [loadFirst] at h
    split at h
    · next layers hread =>
      obtain rfl := Option.some.inj h
      exact ⟨List.mem_cons_self, hread⟩
    · rcases ih h with ⟨hmem, hread⟩
      exact ⟨List.mem_cons_of_mem p hmem, hread⟩
    · rcases ih h with ⟨hmem, hread⟩
      exact ⟨List.mem_cons_of_mem p hmem, hread⟩

/-- If nothing is found and nothing is at fault, there are no files. -/
theorem of_loadFirst_eq_none {places : List Path} (h : (loadFirst m places).1 = none)
    (hfaults : (loadFirst m places).2 = []) :
    ∀ p ∈ places, m.files.isFile m.workDirectory p = false := by
  induction places with
  | nil => exact fun p hp => by cases hp
  | cons p places ih =>
    rw [loadFirst] at h hfaults
    split at h
    · cases h
    · next hread =>
      rw [hread] at hfaults
      intro q hq
      rcases List.mem_cons.mp hq with rfl | hq
      · refine Bool.eq_false_iff.mpr fun hfile => readLayers_ne_none hfile hread
      · exact ih h hfaults q hq
    · next fault hread =>
      rw [hread] at hfaults
      cases hfaults

theorem loadNamed_eq_ok {p : Path} {file : BaseFile} (h : loadNamed m p = .ok file) :
    file.path = p ∧ readLayers m p = .ok (some file.layers) := by
  rcases exists_of_bind_eq_ok h with ⟨layers, hread, h⟩
  cases layers with
  | none => cases h
  | some layers =>
    obtain rfl := Except.ok.inj h
    exact ⟨rfl, hread⟩

theorem chooseFile_of_named {p : Path} {file : BaseFile} (h : loadNamed m p = .ok file) :
    chooseFile m (some p) = (some file, []) := by
  unfold chooseFile
  simp only [h]

/-- A named file that cannot be loaded is a fault. -/
theorem chooseFile_of_unusable {p : Path} {fault : FileFault} (h : loadNamed m p = .error fault) :
    (chooseFile m (some p)).2 ≠ [] := by
  unfold chooseFile
  simp only [h]
  exact List.cons_ne_nil _ _

/-- Without a named file all places are tried. -/
theorem chooseFile_none :
    (chooseFile m none).1 = (loadFirst m (candidates m)).1 ∧
      ((chooseFile m none).1 = none → (chooseFile m none).2 = (loadFirst m (candidates m)).2) := by
  have hall : ((candidates m).filter fun q => some q ≠ none) = candidates m :=
    List.filter_eq_self.mpr fun q _ => decide_eq_true (Option.some_ne_none q)
  unfold chooseFile
  simp only [hall]
  rcases loadFirst m (candidates m) with ⟨_ | file, faults⟩
  · exact ⟨rfl, fun _ => rfl⟩
  · exact ⟨rfl, nofun⟩

/-- What is known about the file of a configuration that was loaded. -/
structure IsBase (m : Machine) (named : Option Path) (file : BaseFile) : Prop where
  reads : readLayers m file.path = .ok (some file.layers)
  path_eq : ∀ p, named = some p → file.path = p
  mem : named = none → file.path ∈ candidates m

theorem IsBase.isFile {named : Option Path} {file : BaseFile} (h : IsBase m named file) :
    m.files.isFile m.workDirectory file.path = true :=
  isFile_of_readLayers h.reads

/-- The file of a configuration that was loaded is the one that a flag names, or else one
    of the places. -/
theorem isBase_of_loaded (h : Loaded m arguments config) {file : BaseFile}
    (hbase : baseFile? m arguments = some file) :
    IsBase m (readFlags arguments).1.filePath file := by
  have hfaults := h.file
  unfold baseFile? at hbase
  cases hnamed : (readFlags arguments).1.filePath with
  | some p =>
    rw [hnamed] at hbase hfaults
    cases hload : loadNamed m p with
    | ok named =>
      rw [chooseFile_of_named hload] at hbase
      obtain rfl := Option.some.inj hbase
      rcases loadNamed_eq_ok hload with ⟨rfl, hread⟩
      exact ⟨hread, fun p hp => Option.some.inj hp, nofun⟩
    | error fault => exact absurd hfaults (chooseFile_of_unusable hload)
  | none =>
    rw [hnamed, chooseFile_none.1] at hbase
    rcases of_loadFirst_eq_some hbase with ⟨hmem, hread⟩
    exact ⟨hread, nofun, fun _ => hmem⟩

/-- The uppermost layer of a file is its own table. If that extends no other file, it is the
    only one. -/
theorem exists_table_of_readLayers {p : Path} {layers : List Layer}
    (h : readLayers m p = .ok (some layers)) :
    ∃ below table, layers = below ++ [table] ∧
      (KeyedList.lookup extendsKey table = none → below = []) := by
  unfold readLayers readLayersFrom at h
  split at h
  · cases h
  · dsimp only at h
    split at h
    · cases h
    · split at h
      · cases h
      · next table _ =>
        rcases exists_of_bind_eq_ok h with ⟨base, hbase, h⟩
        cases base with
        | none =>
          obtain rfl : [table] = layers := Option.some.inj (Except.ok.inj h)
          exact ⟨[], table, rfl, fun _ => rfl⟩
        | some base =>
          rcases exists_of_bind_eq_ok h with ⟨found, -, h⟩
          cases found with
          | none => cases h
          | some below =>
            obtain rfl : below ++ [table] = layers := Option.some.inj (Except.ok.inj h)
            refine ⟨below, table, rfl, fun hnone => ?_⟩
            -- Another file is only looked for if one is named.
            unfold extendedPath? at hbase
            rw [hnone] at hbase
            cases hbase

/-- Without a file no flag names one, and there is none at any of the places. -/
theorem no_file_of_loaded (h : Loaded m arguments config) (hbase : baseFile? m arguments = none) :
    (readFlags arguments).1.filePath = none ∧
      ∀ p ∈ candidates m, m.files.isFile m.workDirectory p = false := by
  have hfaults := h.file
  unfold baseFile? at hbase
  cases hnamed : (readFlags arguments).1.filePath with
  | some p =>
    rw [hnamed] at hbase hfaults
    cases hload : loadNamed m p with
    | ok named =>
      rw [chooseFile_of_named hload] at hbase
      cases hbase
    | error fault => exact absurd hfaults (chooseFile_of_unusable hload)
  | none =>
    rw [hnamed] at hbase hfaults
    rcases chooseFile_none (m := m) with ⟨hfile, hnone⟩
    rw [hnone hbase] at hfaults
    rw [hfile] at hbase
    exact ⟨rfl, of_loadFirst_eq_none hbase hfaults⟩

end Config

end BrokerClient
