import BrokerClient.Commands
import BrokerClient.Proofs.Dispatch.Printing
import BrokerClient.Proofs.Json.DottedListing
import BrokerClient.Proofs.KeyedLists
import BrokerClient.Proofs.Server.Addresses
import BrokerClient.Proofs.Session.Opening

/-!
# Reports on Servers

Two commands report on the servers of a session. One prints a line for every server and has a
mapping of their names to their addresses as its result. The other one prints the configuration
and has it as its result, with an object of the servers by their names in it.

Both put the servers into a keyed list, where a later server takes the place of an earlier one
with the same name. Names are short: they are given freely or made from the first label of the
host and the port. So a server may be missing from the mapping and from the configuration,
though it has its line.

## Main definitions

* `Commands.listed`: The servers that keep their place.
* `Commands.serverBlock`: What is printed for one server of the configuration.
* `Commands.AccountsFor`: There is one entry for each server, with its address.

## Theorems

* `Commands.ordered_configReport`: The configuration is a document in order.
* `Commands.dotted_configReport_leaves`: Each of its leaves has a line.
* `Commands.run_servers`, `Commands.run_config`: What the two commands do.
* `Commands.reports_account_iff`: All servers are accounted for exactly if their names differ.
* `Commands.one_entry_for_two`: One entry for two servers.
-/

namespace BrokerClient

namespace Commands

/-- The last server of a name. -/
def lastOf (name : String) (servers : List Server) : Option Server :=
  servers.reverse.find? fun s => s.name = name

/-- The servers that keep their place: the last one of each name, in the order of the names. -/
def listed (servers : List Server) : List Server :=
  (KeyedList.ofList (servers.map fun s => (s.name, s))).map Prod.snd

/-- The entries of servers by their names. -/
def entries {α : Type} (entry : Server → α) (servers : List Server) : List (String × α) :=
  (listed servers).map fun s => (s.name, entry s)

/-- There is one entry for each server, under its name and with its address. -/
structure AccountsFor (address? : Json → Option String) (entries : List (String × Json))
    (servers : List Server) : Prop where
  address : ∀ s ∈ servers, (KeyedList.lookup s.name entries).bind address? = some s.url.serialize
  count : entries.length = servers.length

/-! ## Keeping the last one -/

variable {α : Type} {servers : List Server}

/-- What is kept is kept for all entries alike. -/
theorem entries_eq (entry : Server → α) (servers : List Server) :
    entries entry servers = KeyedList.ofList (servers.map fun s => (s.name, entry s)) := by
  have hmap := KeyedList.ofList_map entry (servers.map fun s => (s.name, s))
  rw [List.map_map] at hmap
  unfold entries listed
  rw [List.map_map]
  refine (List.map_congr_left fun e he => ?_).trans hmap.symm
  rcases List.mem_map.mp (KeyedList.mem_of_mem_ofList he) with ⟨s, -, rfl⟩
  rfl

theorem lookup_entries (entry : Server → α) (name : String) (servers : List Server) :
    KeyedList.lookup name (entries entry servers) = (lastOf name servers).map entry := by
  rw [entries_eq, KeyedList.lookup_ofList, ← List.map_reverse, KeyedList.lookup_map]
  rfl

/-- Of servers with one name the last one is listed. -/
theorem find?_listed (name : String) (servers : List Server) :
    ((listed servers).find? fun s => s.name = name) = lastOf name servers := by
  have hlookup := lookup_entries id name servers
  unfold entries at hlookup
  rw [KeyedList.lookup_map, Option.map_id] at hlookup
  exact hlookup

theorem lastOf_name (h : (servers.map Server.name).Nodup) {s : Server} (hs : s ∈ servers) :
    lastOf s.name servers = some s := by
  unfold lastOf
  cases hfind : servers.reverse.find? fun t => t.name = s.name with
  | none =>
    have hno := List.find?_eq_none.mp hfind s (List.mem_reverse.mpr hs)
    exact absurd (decide_eq_true rfl) hno
  | some t =>
    have hname : t.name = s.name := by simpa using List.find?_some hfind
    have ht : t ∈ servers := List.mem_reverse.mp (List.mem_of_find?_eq_some hfind)
    rw [List.inj_on_of_nodup_map h ht hs hname]

theorem length_listed (servers : List Server) :
    (listed servers).length = (servers.map Server.name).dedup.length := by
  unfold listed
  rw [List.length_map, KeyedList.length_ofList, List.map_map]
  rfl

theorem length_listed_eq_iff :
    (listed servers).length = servers.length ↔ (servers.map Server.name).Nodup := by
  have hlength : servers.length = (servers.map fun s => (s.name, s)).length :=
    (List.length_map _).symm
  unfold listed
  rw [List.length_map, hlength, KeyedList.length_ofList_eq_iff, List.map_map]
  rfl

/-- Only servers with different names are all kept. -/
theorem listed_perm_iff : (listed servers).Perm servers ↔ (servers.map Server.name).Nodup := by
  refine ⟨fun h => length_listed_eq_iff.mp h.length_eq, fun h => ?_⟩
  have hperm : (KeyedList.ofList (servers.map fun s => (s.name, s))).Perm
      (servers.map fun s => (s.name, s)) := by
    rw [KeyedList.ofList_perm_iff, List.map_map]
    exact h
  have hsnd := hperm.map Prod.snd
  rw [List.map_map] at hsnd
  exact hsnd.trans (.of_eq (List.map_id servers))

/-- Entries that keep the addresses account for all servers exactly if the names differ. -/
theorem accountsFor_iff {entry : Server → Json} {address? : Json → Option String}
    (h : ∀ s, address? (entry s) = some s.url.serialize) :
    AccountsFor address? (entries entry servers) servers ↔
      (servers.map Server.name).Nodup := by
  have hlength : (entries entry servers).length = (listed servers).length := List.length_map _
  refine ⟨fun haccounts => ?_, fun hnodup => ⟨fun s hs => ?_, ?_⟩⟩
  -- The number alone tells whether one took the place of another.
  · rw [← length_listed_eq_iff, ← hlength]
    exact haccounts.count
  · rw [lookup_entries, lastOf_name hnodup hs]
    exact h s
  · rw [hlength, length_listed_eq_iff]
    exact hnodup

/-! ## What is printed -/

/-- The line of a text that may be missing. -/
def optionalLine (path : String) (text : Option String) : String :=
  (text.map fun text => Json.leafLine path (some text)).getD ""

/-- The lines of a server in the configuration. -/
def serverBlock (s : Server) : String :=
  optionalLine ("servers." ++ s.name ++ ".aka") s.givenName ++
    optionalLine ("servers." ++ s.name ++ ".origin") s.origin ++
    Json.leafLine ("servers." ++ s.name ++ ".url") (some s.url.serialize)

/-- The lines of the configuration in front of the servers. -/
def reportFront (c : Config) (files : List Path) : String :=
  Json.dottedItems "config_files" 0 (files.map fun p => .string p.shown) ++
    Json.leafLine "make_jobs" (some (toString c.jobs)) ++
    Json.leafLine "make_program" (some c.makeProgram)

/-- The lines of the configuration behind the servers. -/
def reportBack (c : Config) : String :=
  Json.leafLine "share_dir" (some c.shareDir) ++ Json.leafLine "state_dir" (some c.stateDir)

theorem toJson_eq (s : Server) :
    s.toJson = .object ((s.givenName.map fun name => ("aka", Json.string name)).toList ++
      (s.origin.map fun note => ("origin", Json.string note)).toList ++
        [("url", .string s.url.serialize)]) := by
  have horder : "aka" < "url" ∧ "origin" < "url" ∧ ¬"origin" < "aka" := by decide
  rcases s with ⟨url, _ | name, _ | note⟩ <;>
    simp only [Server.toJson, Server.jsonFields, Json.ofFields, KeyedList.ofList, KeyedList.insert,
      List.foldl_cons, List.foldl_nil, List.cons_append, List.nil_append, horder, if_true, if_false,
      String.reduceEq, Option.map_none, Option.map_some, Option.toList_none, Option.toList_some]

theorem extendPath_server (name key : String) :
    Json.extendPath (Json.extendPath "servers" name) key = "servers." ++ name ++ "." ++ key := by
  have hserver : Json.extendPath "servers" name = "servers." ++ name := rfl
  have hne : ("servers." ++ name).isEmpty = false := by simp
  unfold Json.extendPath at hserver ⊢
  rw [hserver, hne]
  rfl

theorem dottedBelow_string (path text : String) :
    Json.dottedBelow path (.string text) = Json.leafLine path (some text) :=
  Json.dottedBelow_of_isLeaf rfl path

theorem dottedBelow_toJson (s : Server) :
    Json.dottedBelow (Json.extendPath "servers" s.name) s.toJson = serverBlock s := by
  rw [toJson_eq, Json.dottedBelow]
  unfold serverBlock
  rcases s with ⟨url, _ | name, _ | note⟩
  all_goals
    simp [Json.dottedFields, extendPath_server, dottedBelow_string, optionalLine,
      String.append_assoc]

theorem dottedFields_entries (servers : List Server) :
    Json.dottedFields "servers" (servers.map fun s => (s.name, s.toJson)) =
      String.join (servers.map serverBlock) := by
  induction servers with
  | nil => rfl
  | cons s servers ih =>
    rw [List.map_cons, Json.dottedFields, ih, dottedBelow_toJson, List.map_cons, String.join_cons]

theorem configReport_eq (c : Config) (files : List Path) (s : Session) :
    configReport c files s = [("config_files", .array (files.map fun p => .string p.shown)),
      ("make_jobs", .nat c.jobs), ("make_program", .string c.makeProgram),
      ("servers", .object (serverListing s Server.toJson)), ("share_dir", .string c.shareDir),
      ("state_dir", .string c.stateDir)] := by
  have hbefore : "share_dir" < "state_dir" ∧ "config_files" < "share_dir" ∧
      "make_program" < "share_dir" ∧ "make_jobs" < "make_program" ∧ "servers" < "share_dir" := by
    decide
  have hbehind : ¬"make_program" < "config_files" ∧ ¬"make_jobs" < "config_files" ∧
      ¬"servers" < "config_files" ∧ ¬"servers" < "make_jobs" ∧ ¬"servers" < "make_program" := by
    decide
  simp only [configReport, KeyedList.ofList, List.foldl_cons, List.foldl_nil, KeyedList.insert,
    hbefore, hbehind, if_true, if_false, String.reduceEq]

theorem serverListing_eq {c : Config} {s : Session} (h : s.brokers.map Broker.server = c.servers)
    (entry : Server → Json) : serverListing s entry = entries entry c.servers := by
  rw [entries_eq, ← h, List.map_map]
  rfl

/-- The configuration is printed with the lines of the servers that are listed. -/
theorem dotted_configReport {c : Config} {s : Session}
    (h : s.brokers.map Broker.server = c.servers) (files : List Path) :
    Json.dotted (.object (configReport c files s)) =
      reportFront c files ++ String.join ((listed c.servers).map serverBlock) ++ reportBack c := by
  rw [configReport_eq, serverListing_eq h]
  have hpath : ∀ key, Json.extendPath "" key = key := fun _ => rfl
  have hjobs : Json.dottedBelow "make_jobs" (.nat c.jobs) =
      Json.leafLine "make_jobs" (some (toString c.jobs)) := rfl
  unfold Json.dotted entries reportFront reportBack
  rw [Json.dottedBelow]
  simp only [Json.dottedFields, hpath, hjobs, dottedBelow_string]
  rw [Json.dottedBelow, Json.dottedBelow, dottedFields_entries]
  simp only [String.append_assoc, String.append_empty]

/-! ## The leaves of the configuration -/

theorem isLeaf_of_mem_jsonFields {s : Server} {field : String × Json} (h : field ∈ s.jsonFields) :
    field.2.isLeaf = true := by
  have hall : (s.jsonFields.all fun field => field.2.isLeaf) = true := by
    rcases s with ⟨url, _ | name, _ | note⟩ <;> rfl
  exact List.all_eq_true.mp hall field h

theorem ordered_toJson (s : Server) : s.toJson.Ordered :=
  Json.ordered_ofFields fun _ hfield => Json.ordered_of_isLeaf (isLeaf_of_mem_jsonFields hfield)

/-- The configuration is a document in order. -/
theorem ordered_configReport (c : Config) (files : List Path) (s : Session) :
    (Json.object (configReport c files s)).Ordered := by
  have hfiles : (Json.array (files.map fun p => .string p.shown)).Ordered := by
    refine Json.ordered_array fun item hitem => ?_
    rcases List.mem_map.mp hitem with ⟨p, -, rfl⟩
    exact Json.ordered_of_isLeaf rfl
  have hservers : (Json.object (serverListing s Server.toJson)).Ordered := by
    refine Json.ordered_ofFields fun field hfield => ?_
    rcases List.mem_map.mp hfield with ⟨b, -, rfl⟩
    exact ordered_toJson b.server
  refine Json.ordered_ofFields fun field hfield => ?_
  simp only [List.mem_cons, List.not_mem_nil, or_false] at hfield
  rcases hfield with rfl | rfl | rfl | rfl | rfl | rfl
  · exact Json.ordered_of_isLeaf rfl
  · exact Json.ordered_of_isLeaf rfl
  · exact hfiles
  · exact Json.ordered_of_isLeaf rfl
  · exact Json.ordered_of_isLeaf rfl
  · exact hservers

/-- No key of the configuration is empty, so each of its leaves has a line. -/
theorem dotted_configReport_leaves (c : Config) (files : List Path) (s : Session) :
    let document := Json.object (configReport c files s)
    Json.dotted document = endLines (document.leaves.map Json.Leaf.line) := by
  refine Json.dotted_eq (Json.text_ne_of_mem_children fun fields heq field hfield => ?_)
  rw [← Json.object.inj heq, configReport_eq] at hfield
  simp only [List.mem_cons, List.not_mem_nil, or_false] at hfield
  rcases hfield with rfl | rfl | rfl | rfl | rfl | rfl <;> simp

/-! ## The commands -/

variable {c : Context} (h : c.session.brokers.map Broker.server = c.config.servers)

include h

/-- A line for every server is printed, and the mapping has those that are listed. -/
theorem run_servers (m : Machine) :
    ((Commands.servers .servers).run.run c).run m =
      (c.printed (String.join (c.config.servers.map serverLine)) (CommandResult.mapping
        (entries (fun s => .string s.url.serialize) c.config.servers)), m) := by
  have hrun : ((Commands.servers .servers).run.run c).run m =
      (((c.session.brokers.forM fun b => Attempt.print (serverLine b.server)) >>= fun _ =>
        pure (.mapping (serverListing c.session fun s => .string s.url.serialize))).run.run
          c).run m := rfl
  rw [hrun, Attempt.run_forM_print, serverListing_eq h, ← h, List.map_map]
  rfl

theorem run_config (m : Machine) :
    ((Commands.config .config).run.run c).run m =
      (c.printed (reportFront c.config c.configFiles ++
        String.join ((listed c.config.servers).map serverBlock) ++ reportBack c.config)
        (CommandResult.mapping (configReport c.config c.configFiles c.session)), m) := by
  have hrun : ((Commands.config .config).run.run c).run m =
      ((Attempt.print (Json.dotted (.object (configReport c.config c.configFiles c.session))) >>=
        fun _ => pure (CommandResult.mapping
          (configReport c.config c.configFiles c.session))).run.run c).run m := rfl
  rw [hrun, Attempt.run_print, dotted_configReport h]

theorem lookup_servers_configReport :
    KeyedList.lookup "servers" (configReport c.config c.configFiles c.session) =
      some (.object (entries Server.toJson c.config.servers)) := by
  rw [configReport_eq, serverListing_eq h]
  rfl

omit h

/-- The address in the document of a server. -/
def documentAddress? (document : Json) : Option String := (document.field? "url").bind Json.text?

theorem documentAddress?_toJson (s : Server) :
    documentAddress? s.toJson = some s.url.serialize := by
  rw [toJson_eq]
  rcases s with ⟨url, _ | name, _ | note⟩ <;> rfl

/-- What the two commands report, in a session of the configuration. The list of servers has a
    line for each of them. The mapping that comes with it, the lines of the configuration and
    the object in it have the last server of each name only. Each of the three accounts for all
    servers exactly if no two servers have the same name. -/
theorem reports_account_iff {c : Context}
    (h : c.session.brokers.map Broker.server = c.config.servers) (m : Machine) :
    let servers := c.config.servers
    let mapping := entries (fun s => .string s.url.serialize) servers
    let documents := entries Server.toJson servers
    let report := configReport c.config c.configFiles c.session
    ((Commands.servers .servers).run.run c).run m =
        (c.printed (String.join (servers.map serverLine)) (.mapping mapping), m) ∧
      ((Commands.config .config).run.run c).run m =
        (c.printed (reportFront c.config c.configFiles ++
          String.join ((listed servers).map serverBlock) ++ reportBack c.config)
          (.mapping report), m) ∧
      KeyedList.lookup "servers" report = some (.object documents) ∧
      (∀ name, (listed servers).find? (fun s => s.name = name) = lastOf name servers) ∧
      (listed servers).length = (servers.map Server.name).dedup.length ∧
      (AccountsFor Json.text? mapping servers ↔ (servers.map Server.name).Nodup) ∧
      (AccountsFor documentAddress? documents servers ↔ (servers.map Server.name).Nodup) ∧
      ((listed servers).Perm servers ↔ (servers.map Server.name).Nodup) :=
  ⟨run_servers h m, run_config h m, lookup_servers_configReport h,
    fun name => find?_listed name c.config.servers, length_listed c.config.servers,
    accountsFor_iff fun _ => rfl, accountsFor_iff documentAddress?_toJson, listed_perm_iff⟩

/-- What a command sees in a session that was just started, with outputs that take
    everything. -/
def started (c : Config) (m : Machine) : Context :=
  ⟨c, [], ((Session.start c).run m).1, .unlimited, .unlimited⟩

/-- A session that is started has a broker for every server. -/
theorem server_brokers_started (c : Config) (m : Machine) :
    (started c m).session.brokers.map Broker.server = (started c m).config.servers := by
  refine List.ext_getElem? fun i => ?_
  unfold started
  rw [List.getElem?_map, Session.getElem?_brokers_start, Option.map_map]
  exact Option.map_id'

theorem reports_account_iff_twoPorts :
    let first := Server.atPieces [0, 0, 0, 0, 0, 0, 0, 1]
    let second : Server := { first with url := { first.url with port := some 8080 } }
    let servers := [first, second]
    let c := started ⟨"/state", "/share", servers, "warn", .compact, 1, "make"⟩ default
    c.session.brokers.map Broker.server = c.config.servers ∧
      AccountsFor Json.text? (entries (fun s => .string s.url.serialize) servers) servers ∧
      AccountsFor documentAddress? (entries Server.toJson servers) servers ∧
      (listed servers).Perm servers := by
  intro first second servers c
  have h : c.session.brokers.map Broker.server = c.config.servers := server_brokers_started _ _
  have hnodup : (servers.map Server.name).Nodup := by decide +kernel
  rcases reports_account_iff h default with ⟨-, -, -, -, -, hmapping, hdocuments, hlisted⟩
  exact ⟨h, hmapping.mpr hnodup, hdocuments.mpr hnodup, hlisted.mpr hnodup⟩

/-- Two servers at different addresses have one entry, because the usual port is in the names
    of both. -/
theorem one_entry_for_two :
    let first := Server.atPieces [0, 0, 0, 0, 0, 0, 0, 1]
    let second : Server := { first with url := { first.url with port := some 5000 } }
    let servers := [first, second]
    let c := started ⟨"/state", "/share", servers, "warn", .compact, 1, "make"⟩ default
    let printed := fun work : Attempt CommandResult =>
      ((work.run.run c).run default).1.2.output.written
    let result := fun work : Attempt CommandResult => ((work.run.run c).run default).1.1
    let mapping := entries (fun s => .string s.url.serialize) servers
    let report := configReport c.config c.configFiles c.session
    let documents := entries Server.toJson servers
    first.url.serialize ≠ second.url.serialize ∧
      result (Commands.servers .servers) = .ok (.mapping mapping) ∧
      ¬AccountsFor Json.text? mapping servers ∧
      printed (Commands.servers .servers) = Utf8.encode
        "[::1]_5000 http://[::1]/ -\n[::1]_5000 http://[::1]:5000/ -\n".toList ∧
      result (Commands.config .config) = .ok (.mapping report) ∧
      KeyedList.lookup "servers" report = some (.object documents) ∧
      ¬AccountsFor documentAddress? documents servers ∧
      printed (Commands.config .config) = Utf8.encode (
        "make_jobs: 1\nmake_program: make\nservers.[::1]_5000.url: http://[::1]:5000/\n" ++
        "share_dir: /share\nstate_dir: /state\n").toList := by
  intro first second servers c printed result mapping report documents
  have h : c.session.brokers.map Broker.server = c.config.servers := server_brokers_started _ _
  have hsame : ¬(servers.map Server.name).Nodup := by decide +kernel
  have hmapping : result (Commands.servers .servers) = .ok (.mapping mapping) := by
    unfold result
    rw [run_servers h]
    exact Context.printed_of_unlimited rfl _ _
  have hreport : result (Commands.config .config) = .ok (.mapping report) := by
    unfold result
    rw [run_config h]
    exact Context.printed_of_unlimited rfl _ _
  refine ⟨by decide +kernel, hmapping, ?_, by decide +kernel, hreport,
    lookup_servers_configReport h, ?_, by decide +kernel⟩
  · rw [accountsFor_iff fun _ => rfl]
    exact hsame
  · rw [accountsFor_iff documentAddress?_toJson]
    exact hsame

end Commands

end BrokerClient
