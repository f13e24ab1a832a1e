import BrokerClient.Proofs.Config.Loading
import BrokerClient.Proofs.Server.Checks
import Mathlib.Control.Monad.Basic

/-!
# Servers of a Configuration

The servers of all layers count, so those of a configuration come from two sources. The
flags give servers in text form, which are checked when they are read and still pass when
they come back from their layer. Files and variables give documents, and those are taken
for servers as they are. A configuration that was loaded may have servers that no text form
could have given; these are the ones at addresses with another scheme
(`Config.servers_pass_iff`).

## Main definitions

* `Config.declaredServers`: The documents for servers in files and variables.

## Theorems

* `Config.serversOf_concat`: The servers of the uppermost layer come last.
* `Config.Flags.lookup_servers`: The flags give servers in text form.
* `Config.servers_pass_iff`: Which servers of a configuration pass the check.
-/

namespace BrokerClient

namespace Config

variable {m : Machine} {arguments : List OsText} {config : Config}

/-! ## Flags -/

namespace Flags

open Options (Matches)

theorem lookup_setting (name key : String) (value : Option Json) (below : Layer) :
    KeyedList.lookup key
        ((setting name value).foldl (fun done e => KeyedList.insert e.1 e.2 done) below) =
      if key = name then value.or (KeyedList.lookup key below)
      else KeyedList.lookup key below := by
  cases value with
  | none => exact (ite_self _).symm
  | some v => exact KeyedList.lookup_insert name key v below

/-- The servers in flags are written to their layer in JSON form. -/
theorem lookup_servers (found : Matches) :
    ∃ servers : List Server, (∀ s ∈ servers, s.Passes) ∧
      KeyedList.lookup "servers" (settingsOf found) =
        if servers.isEmpty then Option.none
        else some (.array (servers.map Server.toJson)) := by
  refine ⟨(found.textsOf "servers").filterMap readServer?, fun s hs => ?_, ?_⟩
  · rcases List.mem_filterMap.mp hs with ⟨text, -, hread⟩
    unfold readServer? at hread
    cases hparse : Server.parse text with
    | error e =>
      rw [hparse] at hread
      cases hread
    | ok s' =>
      rw [hparse] at hread
      rw [← Option.some.inj hread]
      exact Server.passes_of_parse hparse
  · unfold settingsOf KeyedList.ofList
    simp only [List.foldl_append, lookup_setting]
    simp [KeyedList.lookup]

theorem exists_settingsOf {flags : Flags} (h : Flags.parse arguments = .ok flags) :
    ∃ found, flags.settings = settingsOf found := by
  rcases exists_of_bind_eq_ok h with ⟨outcome, -, h⟩
  rcases exists_of_bind_eq_ok h with ⟨found, -, h⟩
  exact ⟨found, by rw [← Except.ok.inj h]⟩

end Flags

/-! ## Layers -/

/-- The documents for servers that the layers below the flags give. -/
def declaredServers (m : Machine) (file : Option BaseFile) : List Json :=
  serversOf ((defaults m).toLayer :: file.elim [] BaseFile.layers ++
    [Variables.settings m.environment])

/-- An uppermost layer adds its servers, if it gives some, to those of the others. -/
theorem serversOf_concat (layers : List Layer) (layer : Layer) :
    serversOf (layers ++ [layer]) =
      (KeyedList.lookup "servers" layer).elim (serversOf layers)
        (addServers (serversOf layers)) := by
  unfold serversOf valuesOf
  rw [List.filterMap_append, List.foldl_append]
  cases h : KeyedList.lookup "servers" layer with
  | none => simp [h]
  | some value => simp [h]

theorem mapM_of_ofLayers? {layers : List Layer} (h : ofLayers? layers = some config) :
    (serversOf layers).mapM Server.ofJson? = some config.servers :=
  (makes_of_ofLayers? h).servers

/-- The servers of all layers are those below the flags and those in flags, and the latter
    pass the check. -/
theorem mapM_serversOf_allLayers {flags : Flags} {servers : List Server} {file : Option BaseFile}
    (hflags : Flags.parse arguments = .ok flags)
    (h : (serversOf (allLayers m file flags.settings)).mapM Server.ofJson? = some servers) :
    ∃ declared given, servers = declared ++ given ∧
      (declaredServers m file).mapM Server.ofJson? = some declared ∧ ∀ s ∈ given, s.Passes := by
  rcases Flags.exists_settingsOf hflags with ⟨found, hfound⟩
  rcases Flags.lookup_servers found with ⟨written, hpass, hlookup⟩
  have hlayers : allLayers m file flags.settings =
      ((defaults m).toLayer :: file.elim [] BaseFile.layers ++
        [Variables.settings m.environment]) ++ [Flags.settingsOf found] := by
    rw [hfound]
    simp [allLayers]
  rw [hlayers, serversOf_concat, hlookup] at h
  split at h
  · exact ⟨servers, [], (List.append_nil _).symm, h, fun s hs => by cases hs⟩
  · simp only [Option.elim_some, addServers] at h
    rw [List.mapM_append] at h
    rcases Option.bind_eq_some_iff.mp h with ⟨declared, hdeclared, h⟩
    rcases Option.bind_eq_some_iff.mp h with ⟨given, hgiven, h⟩
    refine ⟨declared, given, (Option.some.inj h).symm, hdeclared, fun s hs => ?_⟩
    rcases exists_of_mem_mapM hgiven hs with ⟨document, hdocument, hread⟩
    rcases List.mem_map.mp hdocument with ⟨s', hs', rfl⟩
    exact Server.passes_of_toJson (hpass s' hs') hread

/-- The servers of a configuration are those that files and variables declare, in JSON
    form, and behind them those in flags, in text form. The latter pass the check of servers.
    Of the others and of all that are read from JSON texts, those pass that have a scheme of
    the web, and what passes has a host. -/
theorem servers_pass_iff (m : Machine) (arguments : List OsText) :
    (∀ config, load m arguments = .ok config →
      ∃ declared given, config.servers = declared ++ given ∧
        (declaredServers m (baseFile? m arguments)).mapM Server.ofJson? = some declared ∧
        (∀ s ∈ given, s.Passes) ∧
        ∀ s ∈ config.servers, (s.Passes ↔ Url.IsWeb s.url.scheme) ∧
          (s.Passes → s.hostname ≠ "")) ∧
      ∀ text s, Server.ofJsonText? text = some s →
        (s.Passes ↔ Url.IsWeb s.url.scheme) ∧ (s.Passes → s.hostname ≠ "") := by
  have hhost : ∀ s : Server, s.Passes → s.hostname ≠ "" := fun s h => (Server.passes_iff.mp h).2
  refine ⟨fun config h => ?_, fun text s h => ⟨Server.passes_iff_of_ofJsonText? h, hhost s⟩⟩
  have hloaded := load_eq_ok_iff.mp h
  have hservers := mapM_of_ofLayers? hloaded.values
  rcases mapM_serversOf_allLayers hloaded.flags hservers with
    ⟨declared, given, hsplit, hdeclared, hgiven⟩
  refine ⟨declared, given, hsplit, hdeclared, hgiven, fun s hs => ⟨?_, hhost s⟩⟩
  rcases exists_of_mem_mapM hservers hs with ⟨document, -, hread⟩
  exact Server.passes_iff_of_ofJson? hread

/-- A server in a file and one in a flag, both of which pass. -/
theorem servers_pass_iff_flagAndFile :
    let text := "servers = [\x7b url = \"https://[::1]\" \x7d]\n"
    let m : Machine := { (default : Machine) with
      files := ⟨[([".tcf.toml"], .file (Utf8.encode text.toList) 0o644)]⟩ }
    ∃ config, load m ["tcf", "--servers", "lab=http://[::2]"] = .ok config ∧
      config.servers.map Server.name = ["[::1]_5000", "lab"] ∧ ∀ s ∈ config.servers, s.Passes := by
  intro text m
  have hservers : (load m ["tcf", "--servers", "lab=http://[::2]"]).map Config.servers = .ok
      [⟨⟨"https", "", none, some (.ipv6 [0, 0, 0, 0, 0, 0, 0, 1]), false, none, .segments [""],
          none, none⟩, none, none⟩,
        ⟨⟨"http", "", none, some (.ipv6 [0, 0, 0, 0, 0, 0, 0, 2]), false, none, .segments [""],
          none, none⟩, some "lab", none⟩] := by
    decide +kernel
  rcases exists_of_map_eq_ok hservers with ⟨config, hload, hconfig⟩
  rcases (servers_pass_iff m ["tcf", "--servers", "lab=http://[::2]"]).1 config hload with
    ⟨-, -, -, -, -, hpass⟩
  refine ⟨config, hload, by rw [hconfig]; decide +kernel, fun s hs => (hpass s hs).1.mpr ?_⟩
  rw [hconfig, List.mem_cons, List.mem_singleton] at hs
  rcases hs with rfl | rfl
  · exact .inr rfl
  · exact .inl rfl

/-- A file can declare servers that the text form refuses, one of them without a host, and
    so can a JSON text. -/
theorem servers_unchecked_inFile :
    let text := "servers = [\x7b url = \"ftp://[::1]\" \x7d, \x7b url = \"mailto:lab\" \x7d]\n"
    let m : Machine := { (default : Machine) with
      files := ⟨[([".tcf.toml"], .file (Utf8.encode text.toList) 0o644)]⟩ }
    (∃ config, load m ["tcf"] = .ok config ∧ (∃ s ∈ config.servers, ¬ s.Passes) ∧
        ∃ s ∈ config.servers, s.hostname = "") ∧
      ∃ s, Server.ofJsonText? "\x7b\"url\":\"mailto:lab\"\x7d" = some s ∧ ¬ s.Passes := by
  intro text m
  have hservers : (load m ["tcf"]).map Config.servers = .ok
      [⟨⟨"ftp", "", none, some (.ipv6 [0, 0, 0, 0, 0, 0, 0, 1]), false, none, .segments [""],
          none, none⟩, none, none⟩,
        ⟨⟨"mailto", "", none, none, false, none, .plain "lab", none, none⟩, none, none⟩] := by
    decide +kernel
  rcases exists_of_map_eq_ok hservers with ⟨config, hload, hconfig⟩
  refine ⟨⟨config, hload, ?_⟩, ?_⟩
  · rw [hconfig]
    exact ⟨⟨_, List.mem_cons_self, nofun⟩, _, List.mem_cons_of_mem _ List.mem_cons_self, rfl⟩
  · exact ⟨⟨⟨"mailto", "", none, none, false, none, .plain "lab", none, none⟩, none, none⟩,
      by decide +kernel, nofun⟩

end Config

end BrokerClient
