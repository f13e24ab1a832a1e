import BrokerClient.Proofs.Config.Servers
import BrokerClient.Proofs.Json.Fields
import Mathlib.Data.List.Induction

/-!
# Precedence of Settings

A setting has the value of the uppermost layer that gives it: the flags come before the
variables, these before the file, and the file before the defaults. The layers are put
together as documents, though, and fields of objects are merged. A setting is no object,
with one exception: the log format may be written as an object whose only field is `null`.
For such readers a layer hides the ones below it, unless it gives an object without fields,
which adds nothing (`Config.read_overlay`). This needs the fields of the upper object to be
in order, and those of variables and flags are. What is known about one more layer is then
applied layer by layer.

Servers are not hidden but added. Only a layer that gives `null` forgets the ones below it.
No flag gives `null`. In a variable and in a file it is what becomes of a number that is
none or too large.

## Main definitions

* `Json.isEmptyTable`: An object without fields.
* `Json.HoldSorted`: All values have their fields in order.
* `Config.ReadsNames`: A reader takes no objects but those with one field that is `null`.
* `Config.given?`: What a layer gives to a setting.
* `Config.Settles`: A setting has the value that is given, or the default.
* `Config.listed`, `Config.forgets`: What a layer does to the servers below it.
* `Config.fileTable`: The settings in the file itself.

## Theorems

* `Variables.holdSorted_settings`, `Config.Flags.fields?_of_lookup`: What layers hold.
* `Config.read_overlay`: What one layer over another one says.
* `Config.read_settingOf_concat`: What an uppermost layer does to a setting.
* `Config.read_settingOf_append`: What several layers do to a setting.
* `Config.serversOf_concat_eq`: What an uppermost layer does to the servers.
* `Config.settings_by_precedence`: Each setting is that of the uppermost layer that gives it.
* `Config.variable_forgets_servers`: A number that hides everything and a table that hides
  nothing.
-/

namespace BrokerClient

/-- Whether a document is an object without fields. -/
def Json.isEmptyTable (document : Json) : Bool := document.fields?.any List.isEmpty

/-- The values of fields have fields in order themselves. -/
def Json.HoldSorted (fields : List (String × Json)) : Prop :=
  ∀ name document, KeyedList.lookup name fields = some document → document.IsSorted

/-! ## What variables hold -/

namespace Variables

theorem isSorted_bare (cs : List Char) : (bare cs).IsSorted := by
  refine Json.isSorted_of_fields?_eq_none ?_
  unfold bare
  dsimp only
  split
  · next d _ => cases d.toBinary64? <;> rfl
  · split <;> rfl

/-- Blanks behind a value do not change it. -/
theorem isSorted_of_skipBlanks {found : Option (Json × List Char)} {value : Json}
    {rest : List Char} (hfound : ∀ v ∈ found, v.1.IsSorted)
    (h : (do let (value, rest) ← found; some (value, skipBlanks rest)) = some (value, rest)) :
    value.IsSorted := by
  rcases Option.bind_eq_some_iff.mp h with ⟨v, hv, h⟩
  obtain rfl : v.1 = value := congrArg Prod.fst (Option.some.inj h)
  exact hfound v hv

/-- The fields of a table in braces are put in order. -/
theorem isSorted_of_readValue {depth : Nat} {s rest : List Char} {value : Json}
    (h : readValue depth s = some (value, rest)) : value.IsSorted := by
  have hplain : ∀ v : Json × List Char, v.1.fields? = none → ∀ v' ∈ some v, v'.1.IsSorted := by
    rintro v hv v' ⟨⟩
    exact Json.isSorted_of_fields?_eq_none hv
  unfold readValue at h
  dsimp only at h
  split at h
  -- The two truth values.
  · exact isSorted_of_skipBlanks (hplain _ rfl) h
  · exact isSorted_of_skipBlanks (hplain _ rfl) h
  -- A list.
  · split at h
    · cases h
    · refine isSorted_of_skipBlanks (fun v hv => ?_) h
      rcases Option.map_eq_some_iff.mp hv with ⟨items, -, rfl⟩
      exact Json.isSorted_of_fields?_eq_none rfl
  -- A table.
  · split at h
    · cases h
    · refine isSorted_of_skipBlanks (fun v hv => ?_) h
      rcases Option.map_eq_some_iff.mp hv with ⟨fields, -, rfl⟩
      exact Json.isSorted_ofFields fields.1
  -- A text between quotes, and a single character.
  · refine isSorted_of_skipBlanks (fun v hv => ?_) h
    rcases Option.map_eq_some_iff.mp hv with ⟨text, -, rfl⟩
    exact Json.isSorted_of_fields?_eq_none rfl
  · exact isSorted_of_skipBlanks (hplain _ rfl) h
  · cases h
  -- A text without quotes.
  · refine isSorted_of_skipBlanks (fun v hv => ?_) h
    rw [← Option.some.inj hv]
    exact isSorted_bare _

theorem isSorted_value (text : List Char) : (value text).IsSorted := by
  unfold value
  dsimp only
  split
  · exact Json.isSorted_of_fields?_eq_none rfl
  · split
    · exact Json.isSorted_of_fields?_eq_none rfl
    · split
      · exact Json.isSorted_of_fields?_eq_none rfl
      · split
        · next hread => exact isSorted_of_readValue hread
        · exact Json.isSorted_of_fields?_eq_none rfl

theorem isSorted_nest (path : List String) {value : Json} (h : value.IsSorted) :
    (Json.nest path value).IsSorted := by
  cases path with
  | nil => exact h
  | cons key path =>
    rw [Json.nest]
    split
    · exact h
    · intro fields hfields
      rw [← Json.object.inj hfields]
      exact List.pairwise_singleton _ _

/-- One more variable. -/
theorem holdSorted_overlayFields {settings : List (String × Json)} (h : Json.HoldSorted settings)
    (key : String) {document : Json} (hdocument : document.IsSorted) :
    Json.HoldSorted (Json.overlayFields [(key, document)] settings) := by
  intro name document' hlookup
  rw [Json.overlayFields_cons, Json.overlayFields, KeyedList.lookup_insert] at hlookup
  split at hlookup
  · rw [← Option.some.inj hlookup]
    cases hbelow : KeyedList.lookup key settings with
    | none => exact hdocument
    | some below => exact hdocument.overlay (h key below hbelow)
  · exact h name document' hlookup

/-- The values of settings in variables have their fields in order. -/
theorem holdSorted_settings (environment : Environment) :
    Json.HoldSorted (settings environment) := by
  refine List.foldlRecOn (motive := Json.HoldSorted) _ _ nofun
    fun settings hsettings binding _ => ?_
  obtain ⟨name, text⟩ := binding
  dsimp only
  split
  · next key path _ =>
    exact holdSorted_overlayFields hsettings key
      (isSorted_nest path (isSorted_value text.shownChars))
  · exact hsettings

end Variables

namespace Config

variable {α : Type} {read? : Json → Option α} {a : α}

/-! ## What flags hold -/

namespace Flags

open Options (Matches)

theorem fields?_of_mem_setting {name key : String} {value? : Option Json} {value : Json}
    (hplain : ∀ v ∈ value?, v.fields? = Option.none) (h : (key, value) ∈ setting name value?) :
    value.fields? = Option.none := by
  rcases Option.map_eq_some_iff.mp (Option.mem_toList.mp h) with ⟨v, hv, heq⟩
  obtain rfl : v = value := congrArg Prod.snd heq
  exact hplain v hv

/-- Flags give texts, numbers and lists. -/
theorem fields?_of_lookup {found : Matches} {name : String} {value : Json}
    (h : KeyedList.lookup name (settingsOf found) = some value) : value.fields? = Option.none := by
  have hmem := KeyedList.mem_of_lookup_ofList h
  simp only [List.mem_append] at hmem
  rcases hmem with (((((hmem | hmem) | hmem) | hmem) | hmem) | hmem) | hmem <;>
    refine fields?_of_mem_setting ?_ hmem
  -- Only the list of servers is not made from a single value.
  case inl.inl.inl.inl.inr =>
    split
    · exact nofun
    · exact fun v hv => by rw [← Option.some.inj hv]; rfl
  all_goals
    intro v hv
    rcases Option.map_eq_some_iff.mp hv with ⟨_, -, rfl⟩
    rfl

theorem holdSorted_settingsOf (found : Matches) : Json.HoldSorted (settingsOf found) :=
  fun _ _ h => Json.isSorted_of_fields?_eq_none (fields?_of_lookup h)

end Flags

/-! ## One layer over another -/

/-- A reader takes no objects but those with one field that is `null`. -/
def ReadsNames (read? : Json → Option α) : Prop :=
  ∀ fields a, read? (.object fields) = some a → ∃ key, fields = [(key, .null)]

theorem readsNames_text? : ReadsNames Json.text? := by
  intro fields a h
  cases h

theorem readsNames_makeJobs? : ReadsNames makeJobs? := by
  intro fields a h
  cases h

theorem readsNames_logFormat? : ReadsNames logFormat? := by
  intro fields a h
  unfold logFormat? at h
  split at h
  · next heq => cases heq
  · next key heq => exact ⟨key, Json.object.inj heq⟩
  · cases h

/-- An object without fields says nothing. -/
theorem ReadsNames.isEmptyTable_eq_false (hread : ReadsNames read?) {document : Json}
    (h : read? document = some a) : document.isEmptyTable = false := by
  cases hfields : document.fields? with
  | none =>
    unfold Json.isEmptyTable
    rw [hfields]
    rfl
  | some fields =>
    obtain rfl := Json.eq_object_of_fields? hfields
    rcases hread fields a h with ⟨key, rfl⟩
    rfl

/-- What covers something with `null` is `null` itself. -/
theorem eq_null_of_overlay {upper lower : Json} (h : Json.overlay upper lower = .null) :
    upper = .null := by
  rcases Json.overlay_cases upper lower with hkept | ⟨fields, below, -, -, hmerged⟩
  · exact hkept.symm.trans h
  · cases hmerged.symm.trans h

/-- If fields over others make a single field that is `null`, then they are that field, or
    there are none. -/
theorem eq_of_overlayFields_eq {fields below : List (String × Json)} {key : String}
    (hsorted : KeyedList.Ascending fields) (hne : fields ≠ [])
    (h : Json.overlayFields fields below = [(key, .null)]) : fields = [(key, .null)] := by
  have hkeys : ∀ k ∈ fields.map Prod.fst, k = key := by
    intro k hk
    have hmem : k ∈ (Json.overlayFields fields below).map Prod.fst :=
      Json.mem_keys_overlayFields.mpr (.inl hk)
    rw [h] at hmem
    exact List.mem_singleton.mp hmem
  rcases fields with _ | ⟨⟨k, v⟩, _ | ⟨⟨k', v'⟩, others⟩⟩
  · exact absurd rfl hne
  · obtain rfl : k = key := hkeys k List.mem_cons_self
    have hlookup := congrArg (KeyedList.lookup k) h
    rw [Json.overlayFields_cons, Json.overlayFields, KeyedList.lookup_insert, if_pos rfl] at hlookup
    have hmerged : (KeyedList.lookup k below).elim v (Json.overlay v) = .null := by
      simpa [KeyedList.lookup] using hlookup
    -- What lies below the field does not matter.
    cases hfound : KeyedList.lookup k below with
    | none =>
      rw [hfound, Option.elim_none] at hmerged
      rw [hmerged]
    | some found =>
      rw [hfound, Option.elim_some] at hmerged
      rw [eq_null_of_overlay hmerged]
  -- Two fields have different keys.
  · have hfirst := hkeys k List.mem_cons_self
    have hsecond := hkeys k' (List.mem_cons_of_mem _ List.mem_cons_self)
    have hlt : k < k' := (List.pairwise_cons.mp hsorted).1 k' List.mem_cons_self
    rw [hfirst, hsecond] at hlt
    exact absurd hlt (String.lt_irrefl key)

/-- What a document over another one says is what the upper one says, unless that is an
    object without fields. -/
theorem read_overlay (hread : ReadsNames read?) {upper lower : Json}
    (hupper : upper.IsSorted ∨ lower.fields? = none)
    (h : read? (Json.overlay upper lower) = some a) :
    (if upper.isEmptyTable then read? lower else read? upper) = some a := by
  rcases Json.overlay_cases upper lower with hkept | ⟨fields, below, rfl, rfl, hmerged⟩
  · rw [hkept] at h
    rw [hread.isEmptyTable_eq_false h]
    exact h
  · have hsorted : KeyedList.Ascending fields := hupper.resolve_right nofun fields rfl
    rw [hmerged] at h
    by_cases hnil : fields = []
    · rw [hnil, Json.overlayFields] at h
      rw [hnil]
      exact h
    -- What is read has one field, so the upper object has it, too.
    · rcases hread _ _ h with ⟨key, hone⟩
      have heq := eq_of_overlayFields_eq hsorted hnil hone
      rw [hone] at h
      rw [heq]
      exact h

/-! ## Layers -/

/-- What a layer gives to a setting. An object without fields is nothing. -/
def given? (name : String) (layer : Layer) : Option Json :=
  (KeyedList.lookup name layer).filter fun value => !value.isEmptyTable

theorem settingOf_concat (name : String) (layers : List Layer) (layer : Layer) :
    settingOf name (layers ++ [layer]) =
      (KeyedList.lookup name layer).elim (settingOf name layers) fun value =>
        Json.overlay value (settingOf name layers) := by
  unfold settingOf valuesOf
  rw [List.filterMap_append, List.foldl_append]
  cases h : KeyedList.lookup name layer with
  | none => simp [h]
  | some value => simp [h]

/-- A setting is what the uppermost layer gives, or else what the others say. -/
theorem read_settingOf_concat (hread : ReadsNames read?) {name : String} {layers : List Layer}
    {layer : Layer} (hlayer : Json.HoldSorted layer ∨ (settingOf name layers).fields? = none)
    (h : read? (settingOf name (layers ++ [layer])) = some a) :
    (given? name layer).elim (read? (settingOf name layers)) read? = some a := by
  rw [settingOf_concat] at h
  unfold given?
  cases hvalue : KeyedList.lookup name layer with
  | none =>
    rw [hvalue] at h
    exact h
  | some value =>
    rw [hvalue] at h
    have hstep := read_overlay hread (hlayer.imp_left fun hsorted => hsorted name value hvalue) h
    cases hempty : value.isEmptyTable <;> simpa [Option.filter, hempty] using hstep

/-- A setting is what the uppermost of some layers gives that gives something, or else what
    those below them say. -/
theorem read_settingOf_append (hread : ReadsNames read?) {name : String} (below : List Layer)
    {layers : List Layer} (hsorted : ∀ layer ∈ layers, Json.HoldSorted layer)
    (h : read? (settingOf name (below ++ layers)) = some a) :
    (layers.reverse.findSome? (given? name)).elim (read? (settingOf name below)) read? =
      some a := by
  induction layers using List.reverseRecOn with
  | nil =>
    rw [List.append_nil] at h
    exact h
  | append_singleton layers layer ih =>
    rw [← List.append_assoc] at h
    have hlayer := hsorted layer (List.mem_append_right _ List.mem_cons_self)
    have hstep := read_settingOf_concat hread (.inl hlayer) h
    rw [List.reverse_append, List.reverse_singleton, List.singleton_append, List.findSome?_cons]
    cases hgiven : given? name layer with
    | some value =>
      rw [hgiven] at hstep
      exact hstep
    | none =>
      rw [hgiven] at hstep
      exact ih (fun other hother => hsorted other (List.mem_append_left _ hother)) hstep

/-- A setting has the value that is given, or else the default. -/
def Settles (read? : Json → Option α) (given : Option Json) (default value : α) : Prop :=
  given.elim (some default) read? = some value

/-- Nothing needs to be known about the table of the file, because defaults are no objects. -/
theorem settles_of_read (hread : ReadsNames read?) {name : String} {document : Json}
    {base table environment flags : Layer} {default value : α}
    (hbase : KeyedList.lookup name base = some document) (hplain : document.fields? = none)
    (hdefault : read? document = some default) (henvironment : Json.HoldSorted environment)
    (hflags : Json.HoldSorted flags)
    (h : read? (settingOf name [base, table, environment, flags]) = some value) :
    Settles read? ([flags, environment, table].findSome? (given? name)) default value := by
  have hdocument : settingOf name [base] = document := by
    unfold settingOf valuesOf
    rw [List.filterMap_cons_some hbase]
    exact Json.overlay_of_fields?_eq_none_left hplain .null
  have hover : ([flags, environment].findSome? (given? name)).elim
      (read? (settingOf name ([base] ++ [table]))) read? = some value :=
    read_settingOf_append hread [base, table]
      (List.forall_mem_cons.mpr ⟨henvironment, List.forall_mem_singleton.mpr hflags⟩) h
  have hsplit : [flags, environment, table].findSome? (given? name) =
      ([flags, environment].findSome? (given? name)).or (given? name table) :=
    calc ([flags, environment] ++ [table]).findSome? (given? name)
      _ = _ := by rw [List.findSome?_append, List.findSome?_singleton]
  unfold Settles
  rw [hsplit]
  cases hgiven : [flags, environment].findSome? (given? name) with
  | some given =>
    rw [hgiven] at hover
    exact hover
  | none =>
    rw [hgiven] at hover
    have htable := read_settingOf_concat hread (.inr (by rw [hdocument, hplain])) hover
    rw [hdocument, hdefault] at htable
    exact htable

/-! ## Servers -/

/-- The servers that a layer adds. -/
def listed (layer : Layer) : List Json :=
  (KeyedList.lookup "servers" layer).elim [] (addServers [])

/-- Whether a layer takes away the servers below it. -/
def forgets (layer : Layer) : Bool := (KeyedList.lookup "servers" layer).any Json.isNull

theorem addServers_eq (servers : List Json) (value : Json) :
    addServers servers value =
      (if value.isNull then [] else servers) ++ addServers [] value := by
  cases value <;> rfl

/-- An uppermost layer adds its servers to those of the others. -/
theorem serversOf_concat_eq (layers : List Layer) (layer : Layer) :
    serversOf (layers ++ [layer]) =
      (if forgets layer then [] else serversOf layers) ++ listed layer := by
  rw [serversOf_concat]
  unfold forgets listed
  cases KeyedList.lookup "servers" layer with
  | none => exact (List.append_nil _).symm
  | some value => exact addServers_eq (serversOf layers) value

theorem Flags.forgets_settingsOf (found : Options.Matches) :
    forgets (Flags.settingsOf found) = false := by
  rcases Flags.lookup_servers found with ⟨servers, -, hlookup⟩
  unfold forgets
  rw [hlookup]
  split <;> rfl

/-- If nothing lies below the table of a file, only a layer between it and the flags can
    forget servers. -/
theorem exists_of_mapM_serversOf {base table environment flags : Layer} {servers : List Server}
    (hbase : serversOf [base] = []) (hflags : forgets flags = false)
    (h : (serversOf [base, table, environment, flags]).mapM Server.ofJson? = some servers) :
    ∃ ofTable ofEnvironment ofFlags, servers = ofTable ++ ofEnvironment ++ ofFlags ∧
      (if forgets environment then [] else listed table).mapM Server.ofJson? = some ofTable ∧
      (listed environment).mapM Server.ofJson? = some ofEnvironment ∧
      (listed flags).mapM Server.ofJson? = some ofFlags := by
  have htable : serversOf [base, table] = listed table := by
    rw [← List.singleton_append, serversOf_concat_eq, hbase, ite_self, List.nil_append]
  have hall : serversOf [base, table, environment, flags] =
      (if forgets environment then [] else listed table) ++ listed environment ++ listed flags :=
    calc serversOf ([base, table, environment] ++ [flags])
      _ = serversOf ([base, table] ++ [environment]) ++ listed flags := by
        rw [serversOf_concat_eq, hflags]
        rfl
      _ = _ := by rw [serversOf_concat_eq, htable]
  rw [hall, List.mapM_append, List.mapM_append] at h
  rcases Option.bind_eq_some_iff.mp h with ⟨below, hbelow, h⟩
  rcases Option.bind_eq_some_iff.mp h with ⟨ofFlags, hofFlags, h⟩
  rcases Option.bind_eq_some_iff.mp hbelow with ⟨ofTable, hofTable, hbelow⟩
  rcases Option.bind_eq_some_iff.mp hbelow with ⟨ofEnvironment, hofEnvironment, hbelow⟩
  refine ⟨ofTable, ofEnvironment, ofFlags, ?_, hofTable, hofEnvironment, hofFlags⟩
  rw [← Option.some.inj h, ← Option.some.inj hbelow]

/-! ## All settings -/

/-- The table that a file itself holds. -/
def fileTable (file : Option BaseFile) : Layer :=
  (file.bind fun file => file.layers.getLast?).getD []

theorem ofLayers?_congr {layers layers' : List Layer}
    (h : ∀ name, valuesOf name layers = valuesOf name layers') :
    ofLayers? layers = ofLayers? layers' := by
  simp only [ofLayers?, settingOf, serversOf, h]

variable {m : Machine} {arguments : List OsText} {config : Config}

/-- If the file extends no other one, there are four layers. -/
theorem makes_of_loaded (h : Loaded m arguments config)
    (htable : KeyedList.lookup extendsKey (fileTable (baseFile? m arguments)) = none) :
    Makes [(defaults m).toLayer, fileTable (baseFile? m arguments),
      Variables.settings m.environment, (readFlags arguments).1.settings] config := by
  refine makes_of_ofLayers? (Eq.trans ?_ h.values)
  cases hbase : baseFile? m arguments with
  | none =>
    -- Without a file its table is empty.
    refine ofLayers?_congr fun name => ?_
    simp [valuesOf, allLayers, fileTable, List.filterMap_cons, KeyedList.lookup]
  | some file =>
    rcases exists_table_of_readLayers (isBase_of_loaded h hbase).reads with
      ⟨below, table, hlayers, hbelow⟩
    have htop : fileTable (some file) = table := by simp [fileTable, hlayers]
    rw [hbase, htop] at htable
    rw [hbelow htable, List.nil_append] at hlayers
    rw [htop, allLayers, Option.elim_some, hlayers]
    rfl

theorem defaultMakeJobs_le (m : Machine) : defaultMakeJobs m ≤ makeJobsLimit := by
  unfold defaultMakeJobs makeJobsLimit
  split
  · next hrange =>
    simp only [Bool.and_eq_true, decide_eq_true_eq] at hrange
    exact Nat.le_sub_one_of_lt hrange.2
  · decide

theorem makeJobs?_nat {n : Nat} (h : n ≤ makeJobsLimit) : makeJobs? (Json.nat n) = some n := by
  simp [makeJobs?, Json.nat, h]

theorem lookup_toLayer (c : Config) :
    KeyedList.lookup "state_dir" c.toLayer = some (.string c.stateDir) ∧
      KeyedList.lookup "share_dir" c.toLayer = some (.string c.shareDir) ∧
      KeyedList.lookup "servers" c.toLayer = some (.array (c.servers.map Server.toJson)) ∧
      KeyedList.lookup "log_filter" c.toLayer = some (.string c.logFilter) ∧
      KeyedList.lookup "log_format" c.toLayer = some (.string c.logFormat.name) ∧
      KeyedList.lookup "make_jobs" c.toLayer = some (.nat c.makeJobs) ∧
      KeyedList.lookup "make_program" c.toLayer = some (.string c.makeProgram) := by
  simp [toLayer, KeyedList.ofList, KeyedList.lookup_insert]

/-- If a file extends no other one, each setting has the value of the uppermost layer that
    gives it, and the servers of all layers follow each other, except that a variable can
    take those of the file away. -/
theorem settings_by_precedence (m : Machine) (arguments : List OsText) (config : Config)
    (h : load m arguments = .ok config)
    (htable : KeyedList.lookup extendsKey (fileTable (baseFile? m arguments)) = none) :
    let table := fileTable (baseFile? m arguments)
    let environment := Variables.settings m.environment
    let flags := (readFlags arguments).1.settings
    let given (name : String) := [flags, environment, table].findSome? (given? name)
    Settles Json.text? (given "state_dir") (defaultStateDir m) config.stateDir ∧
      Settles Json.text? (given "share_dir") defaultShareDir config.shareDir ∧
      Settles Json.text? (given "log_filter") defaultLogFilter config.logFilter ∧
      Settles logFormat? (given "log_format") defaultLogFormat config.logFormat ∧
      Settles makeJobs? (given "make_jobs") (defaultMakeJobs m) config.makeJobs ∧
      Settles Json.text? (given "make_program") defaultMakeProgram config.makeProgram ∧
      config.jobs = max config.makeJobs 1 ∧
      ∃ ofTable ofEnvironment ofFlags, config.servers = ofTable ++ ofEnvironment ++ ofFlags ∧
        (if forgets environment then [] else listed table).mapM Server.ofJson? = some ofTable ∧
        (listed environment).mapM Server.ofJson? = some ofEnvironment ∧
        (listed flags).mapM Server.ofJson? = some ofFlags := by
  intro table environment flags given
  have hloaded := load_eq_ok_iff.mp h
  have hmakes := makes_of_loaded hloaded htable
  rcases lookup_toLayer (defaults m) with
    ⟨hstate, hshare, hservers, hfilter, hformat, hjobs, hprogram⟩
  obtain ⟨found, hfound⟩ : ∃ found, flags = Flags.settingsOf found :=
    Flags.exists_settingsOf hloaded.flags
  have henvironment : Json.HoldSorted environment := Variables.holdSorted_settings m.environment
  have hflags : Json.HoldSorted flags := by
    rw [hfound]
    exact Flags.holdSorted_settingsOf found
  have hforgets : forgets flags = false := by
    rw [hfound]
    exact Flags.forgets_settingsOf found
  have hbase : serversOf [(defaults m).toLayer] = [] := by
    unfold serversOf valuesOf
    rw [List.filterMap_cons_some hservers]
    rfl
  refine ⟨settles_of_read readsNames_text? hstate rfl rfl henvironment hflags hmakes.stateDir,
    settles_of_read readsNames_text? hshare rfl rfl henvironment hflags hmakes.shareDir,
    settles_of_read readsNames_text? hfilter rfl rfl henvironment hflags hmakes.logFilter,
    settles_of_read readsNames_logFormat? hformat rfl (Log.Format.ofName?_name _) henvironment
      hflags hmakes.logFormat,
    settles_of_read readsNames_makeJobs? hjobs rfl (makeJobs?_nat (defaultMakeJobs_le m))
      henvironment hflags hmakes.makeJobs,
    settles_of_read readsNames_text? hprogram rfl rfl henvironment hflags hmakes.makeProgram,
    rfl, exists_of_mapM_serversOf hbase hforgets hmakes.servers⟩

/-- Three programs in three layers, two filters, and a directory only in the file. -/
theorem settings_by_precedence_threeLayers :
    let text := "make_program = \"a\"\nlog_filter = \"a\"\nshare_dir = \"/a\"\n"
    let m : Machine := { (default : Machine) with
      files := ⟨[([".tcf.toml"], .file (Utf8.encode text.toList) 0o644)]⟩
      environment := ⟨[("TCF_MAKE_PROGRAM", "b"), ("TCF_LOG_FILTER", "b")]⟩ }
    ∃ config, load m ["tcf", "--make-program=c"] = .ok config ∧
      config.makeProgram = "c" ∧ config.logFilter = "b" ∧ config.shareDir = "/a" := by
  intro text m
  have hloads : (load m ["tcf", "--make-program=c"]).map Config.makeJobs = .ok 1 := by
    decide +kernel
  have htable : KeyedList.lookup extendsKey
      (fileTable (baseFile? m ["tcf", "--make-program=c"])) = none :=
    Option.isNone_iff_eq_none.mp (by decide +kernel)
  rcases exists_of_map_eq_ok hloads with ⟨config, hload, -⟩
  rcases settings_by_precedence m ["tcf", "--make-program=c"] config hload htable with
    ⟨-, hshare, hfilter, -, -, hprogram, -⟩
  unfold Settles at hshare hfilter hprogram
  refine ⟨config, hload, Option.some.inj (hprogram.symm.trans ?_),
    Option.some.inj (hfilter.symm.trans ?_), Option.some.inj (hshare.symm.trans ?_)⟩
  · decide +kernel
  · decide +kernel
  · decide +kernel

/-- A variable with a number that is too large takes the server of a file away, and an empty
    table in a variable does not hide the format in a file. -/
theorem variable_forgets_servers :
    let on (text : String) (name value : OsText) : Machine := { (default : Machine) with
      files := ⟨[([".tcf.toml"], .file (Utf8.encode text.toList) 0o644)]⟩
      environment := ⟨[(name, value)]⟩ }
    let forgetting := on "servers = [\x7b url = \"http://[::1]\" \x7d]\n" "TCF_SERVERS" "1.0e999"
    let keeping := on "log_format = \x7b json = nan \x7d\n" "TCF_LOG_FORMAT" "\x7b\x7d"
    ((load forgetting ["tcf"]).map Config.servers = .ok [] ∧
        ((listed (fileTable (baseFile? forgetting ["tcf"]))).mapM Server.ofJson?).map
          (List.map Server.name) = some ["[::1]_5000"]) ∧
      (load keeping ["tcf"]).map Config.logFormat = .ok .json ∧
        (KeyedList.lookup "log_format" (Variables.settings keeping.environment)).any
          Json.isEmptyTable = true := by
  decide +kernel

end Config

end BrokerClient
