import BrokerClient.Proofs.Server.Addresses
import BrokerClient.Proofs.Session.Targets
import Mathlib.Control.Monad.Basic

/-!
# Names That Lead to One Broker

A lookup takes the first broker or target that fits. It picks none of several if the
servers were given no names and differ in the first label of their host or in their
port. Then no two of them have the same name, and the name of a server can be read off
the full name of a target, up to its first slash.

A name is no address either. So the name of a broker leads to that broker and to no
other, and the full name of a target leads to no broker before the targets are searched.

Servers with different addresses may have the same first label and the same port. Then
their targets may have the same full names, and the first broker is picked.

## Theorems

* `Session.name_eq_of_fullName_eq`: A full name says what the server is called.
* `Broker.answersTo_name_iff`, `Broker.not_answersTo_fullName`: Names are no addresses.
* `Session.names_lead_to_one_broker`: Names of brokers and full names of targets are unique.
* `Session.different_addresses_same_name`: Different addresses do not make them so.
-/

namespace BrokerClient

section Unnamed

variable {s : Server}

theorem Server.name_of_unnamed (h : s.givenName = none) : s.name = s.derivedName := by
  unfold name
  rw [h]
  rfl

variable {b : Broker} (hweb : b.server.IsWeb) (hunnamed : b.server.givenName = none)
  (hweb' : s.IsWeb) (hunnamed' : s.givenName = none)

include hweb hweb' hunnamed'

/-- The name of a server leads to brokers of that name, and it is no address. -/
theorem Broker.answersTo_name_iff : b.answersTo s.name = true ↔ b.name = s.name := by
  have hne : withoutSlashes b.server.url.serialize ≠ withoutSlashes s.name := by
    rw [Server.name_of_unnamed hunnamed']
    -- All of the name stands in front of the first slash, as there is none.
    exact withoutSlashes_serialize_ne hweb (List.append_nil _).symm
      (Server.slash_notMem_derivedName hweb') s.underscore_mem_derivedName
  unfold answersTo
  rw [decide_eq_false hne, Bool.false_or, decide_eq_true_iff]

include hunnamed

/-- The full name of a target leads to no broker by itself. -/
theorem Broker.not_answersTo_fullName (name : String) :
    b.answersTo (s.name ++ "/" ++ name) = false := by
  have hne : withoutSlashes b.server.url.serialize ≠ withoutSlashes (s.name ++ "/" ++ name) := by
    rw [Server.name_of_unnamed hunnamed', String.append_assoc]
    exact withoutSlashes_serialize_ne hweb String.toList_append
      (Server.slash_notMem_derivedName hweb') s.underscore_mem_derivedName
  -- It has a slash, which the name of a broker has not.
  have hname : b.name ≠ s.name ++ "/" ++ name := by
    intro h
    refine Server.slash_notMem_derivedName hweb ?_
    rw [← Server.name_of_unnamed hunnamed, ← Broker.name, h]
    simp
  unfold answersTo
  rw [decide_eq_false hne, decide_eq_false hname]
  rfl

end Unnamed

namespace Session

/-- A full name says what the server is called: it is the part in front of the first
    slash. -/
theorem name_eq_of_fullName_eq {s s' : Server} (hweb : s.IsWeb) (hunnamed : s.givenName = none)
    (hweb' : s'.IsWeb) (hunnamed' : s'.givenName = none) {name name' : String}
    (h : s.name ++ "/" ++ name = s'.name ++ "/" ++ name') : s.name = s'.name := by
  have hcut : ∀ {s : Server}, s.IsWeb → s.givenName = none → ∀ name : String,
      splitOnce '/' (s.name ++ "/" ++ name).toList = some (s.name.toList, name.toList) := by
    intro s hweb hunnamed name
    rw [splitOnce_eq_some, Server.name_of_unnamed hunnamed]
    exact ⟨by simp, Server.slash_notMem_derivedName hweb⟩
  have hparts := hcut hweb hunnamed name
  rw [h, hcut hweb' hunnamed' name'] at hparts
  exact (String.toList_inj.mp (Prod.mk.inj (Option.some.inj hparts)).1).symm

/-- A name that only one broker answers to leads to that broker. -/
theorem run_resolveBroker_of_answersTo {s : Session} {i : Nat} {b : Broker}
    (hb : s.brokers[i]? = some b) {name : String} (hanswers : b.answersTo name = true)
    (honly : ∀ j b', s.brokers[j]? = some b' → b'.answersTo name = true → i = j) (m : Machine) :
    ((s.resolveBroker name).run m).1 = .ok b := by
  unfold resolveBroker
  cases hfind : s.brokers.find? fun b => b.answersTo name with
  | none =>
    have hno := List.find?_eq_none.mp hfind b (List.mem_of_getElem? hb)
    exact absurd hanswers hno
  | some found =>
    -- The broker that is found answers to the name too.
    rcases List.mem_iff_getElem?.mp (List.mem_of_find?_eq_some hfind) with ⟨j, hj⟩
    have hfound : found.answersTo name = true := by simpa using List.find?_some hfind
    obtain rfl : i = j := honly j found hj hfound
    rw [hb] at hj
    rw [Option.some.inj hj]
    rfl

section Unique

variable {c : Config} {m : Machine}

theorem server_of_brokers_start {i : Nat} {b : Broker}
    (h : ((start c).run m).1.brokers[i]? = some b) : c.servers[i]? = some b.server := by
  rw [getElem?_brokers_start] at h
  rcases Option.map_eq_some_iff.mp h with ⟨server, hserver, rfl⟩
  exact hserver

/-- Servers are told from each other by the first label of their host and their port,
    and none was given a name. -/
structure AreTold (servers : List Server) : Prop where
  unnamed : ∀ s ∈ servers, s.givenName = none
  isWeb : ∀ s ∈ servers, s.IsWeb
  different : (servers.map fun s => (s.firstLabel, s.portNumber)).Nodup

variable (h : AreTold c.servers)

include h

theorem place_eq_of_name_eq {i j : Nat} {s s' : Server} (hi : c.servers[i]? = some s)
    (hj : c.servers[j]? = some s') (hname : s.name = s'.name) : i = j := by
  rw [Server.name_of_unnamed (h.unnamed s (List.mem_of_getElem? hi)),
    Server.name_of_unnamed (h.unnamed s' (List.mem_of_getElem? hj)),
    Server.derivedName_inj] at hname
  exact place_eq_of_nodup h.different hi hj (Prod.ext hname.1 hname.2)

theorem broker_eq_of_fullName_eq {t t' : Target} (ht : t ∈ ((start c).run m).1.targets)
    (ht' : t' ∈ ((start c).run m).1.targets) (hfull : t.fullName = t'.fullName) :
    t.broker = t'.broker := by
  rcases server_of_mem_targets ht with ⟨s, hs, hname, -⟩
  rcases server_of_mem_targets ht' with ⟨s', hs', hname', -⟩
  have hmem := List.mem_of_getElem? hs
  have hmem' := List.mem_of_getElem? hs'
  rw [hname, hname'] at hfull
  exact place_eq_of_name_eq h hs hs' (name_eq_of_fullName_eq (h.isWeb s hmem) (h.unnamed s hmem)
    (h.isWeb s' hmem') (h.unnamed s' hmem') hfull)

/-- The name of a broker leads to that broker. -/
theorem run_resolveBroker_name {i : Nat} {b : Broker}
    (hb : ((start c).run m).1.brokers[i]? = some b) (m' : Machine) :
    ((((start c).run m).1.resolveBroker b.name).run m').1 = .ok b := by
  have hserver := server_of_brokers_start hb
  have hmem := List.mem_of_getElem? hserver
  have hanswers : ∀ {b' : Broker}, b'.server.IsWeb →
      (b'.answersTo b.name = true ↔ b'.name = b.name) := fun hweb =>
    Broker.answersTo_name_iff hweb (h.isWeb _ hmem) (h.unnamed _ hmem)
  refine run_resolveBroker_of_answersTo hb ((hanswers (h.isWeb _ hmem)).mpr rfl) ?_ m'
  intro j b' hb' hname
  have hserver' := server_of_brokers_start hb'
  have hweb' := h.isWeb _ (List.mem_of_getElem? hserver')
  exact place_eq_of_name_eq h hserver hserver' ((hanswers hweb').mp hname).symm

/-- The full name of a target leads to the broker of that target. -/
theorem run_resolveBroker_fullName {t : Target} (ht : t ∈ ((start c).run m).1.targets) {b : Broker}
    (hb : ((start c).run m).1.brokers[t.broker]? = some b) (m' : Machine) :
    ((((start c).run m).1.resolveBroker t.fullName).run m').1 = .ok b := by
  rcases server_of_mem_targets ht with ⟨s, hs, hfull, -⟩
  have hmem := List.mem_of_getElem? hs
  -- So the lookup goes on to the targets.
  have hno : ∀ b' ∈ ((start c).run m).1.brokers, b'.answersTo t.fullName = false := by
    intro b' hb'
    rcases List.mem_iff_getElem?.mp hb' with ⟨j, hj⟩
    have hmem' := List.mem_of_getElem? (server_of_brokers_start hj)
    rw [hfull]
    exact Broker.not_answersTo_fullName (h.isWeb _ hmem') (h.unnamed _ hmem') (h.isWeb s hmem)
      (h.unnamed s hmem) t.name
  -- The first target of this name need not be this one, but it has the same broker.
  have hresolve : ∃ found, ((start c).run m).1.resolveTarget t.fullName = .ok found ∧
      found.broker = t.broker := by
    unfold resolveTarget
    cases hfind : ((start c).run m).1.targets.find? fun t' => t'.fullName = t.fullName with
    | none => exact absurd (List.find?_eq_none.mp hfind t ht) (by simp)
    | some found =>
      have hname : found.fullName = t.fullName := by simpa using List.find?_some hfind
      exact ⟨found, rfl, broker_eq_of_fullName_eq h (List.mem_of_find?_eq_some hfind) ht hname⟩
  rcases hresolve with ⟨found, hfound, hbroker⟩
  rw [run_resolveBroker_of_not_answersTo hno, hfound]
  dsimp only
  rw [hbroker, hb]

end Unique

/-- Lookups pick none of several brokers. The servers were given no names, and no two of
    them have the same first label and port. Then targets with one full name belong to
    one broker, brokers with one name are at one place, and the name of a broker leads to
    it, as does the full name of each of its targets. -/
theorem names_lead_to_one_broker (c : Config)
    (hservers : ∀ s ∈ c.servers, s.givenName = none ∧ ∃ text, Server.parse text = .ok s)
    (hdifferent : (c.servers.map fun s => (s.firstLabel, s.portNumber)).Nodup) (m : Machine) :
    let s := ((start c).run m).1
    (∀ t ∈ s.targets, ∀ t' ∈ s.targets, t.fullName = t'.fullName → t.broker = t'.broker) ∧
    (∀ (name : String) (i j : Nat) (b b' : Broker), s.brokers[i]? = some b →
      s.brokers[j]? = some b' → b.name = name → b'.name = name → i = j) ∧
    (∀ (i : Nat) (b : Broker) (m' : Machine), s.brokers[i]? = some b →
      ((s.resolveBroker b.name).run m').1 = .ok b) ∧
    ∀ t ∈ s.targets, ∃ b, s.brokers[t.broker]? = some b ∧
      ∀ m', ((s.resolveBroker t.fullName).run m').1 = .ok b := by
  intro s
  have htold : AreTold c.servers :=
    ⟨fun server hserver => (hservers server hserver).1, fun server hserver => by
      rcases (hservers server hserver).2 with ⟨text, hparse⟩
      exact Server.isWeb_of_parse hparse, hdifferent⟩
  refine ⟨fun t ht t' ht' => broker_eq_of_fullName_eq htold ht ht', ?_, ?_, ?_⟩
  · intro name i j b b' hb hb' hname hname'
    exact place_eq_of_name_eq htold (server_of_brokers_start hb) (server_of_brokers_start hb')
      (hname.trans hname'.symm)
  · intro i b m' hb
    exact run_resolveBroker_name htold hb m'
  · intro t ht
    rcases server_of_mem_targets ht with ⟨server, hserver, -⟩
    have hb := getElem?_brokers_start c m t.broker
    rw [hserver] at hb
    exact ⟨_, hb, fun m' => run_resolveBroker_fullName htold ht hb m'⟩

/-- Two loopback servers that offer a target of the same name. Its full name leads to the
    second one. -/
theorem names_lead_to_one_broker_loopback :
    let first := Server.atPieces [0, 0, 0, 0, 0, 0, 0, 1]
    let second := Server.atPieces [0, 0, 0, 0, 0, 0, 0, 2]
    let c : Config := ⟨"/state", "/share", [first, second], "warn", .compact, 1, "make"⟩
    let inventory := Node.file (Utf8.encode "[\x7b\"id\": \"q\"\x7d]".toList) 0o600
    let m : Machine := { (default : Machine) with
      files := ⟨[(["state", "targets-http[1].json"], inventory),
        (["state", "targets-http[2].json"], inventory), (["state"], .directory 0o700)]⟩ }
    let s := ((start c).run m).1
    (∀ t ∈ s.targets, t.fullName = "[::2]_5000/q" → t.broker = 1) ∧
      ∃ b, s.brokers[1]? = some b ∧ b.server = second ∧
        ((s.resolveBroker "[::2]_5000/q").run m).1 = .ok b := by
  intro first second c inventory m s
  have hparse : Server.parse "http://[::1]" = .ok first ∧
      Server.parse "http://[::2]" = .ok second := by
    decide +kernel
  have hservers : ∀ server ∈ c.servers, server.givenName = none ∧
      ∃ text, Server.parse text = .ok server := by
    intro server hserver
    rcases List.mem_cons.mp hserver with rfl | hserver
    · exact ⟨rfl, _, hparse.1⟩
    · rw [List.mem_singleton.mp hserver]
      exact ⟨rfl, _, hparse.2⟩
  have hdifferent : (c.servers.map fun s => (s.firstLabel, s.portNumber)).Nodup := by
    decide +kernel
  have htarget : (⟨"q", "[::2]_5000/q", 1, false⟩ : Target) ∈ s.targets := by decide +kernel
  rcases names_lead_to_one_broker c hservers hdifferent m with ⟨hfull, -, -, hresolve⟩
  rcases hresolve _ htarget with ⟨b, hb, hfound⟩
  refine ⟨fun t ht hname => hfull t ht _ htarget hname, b, hb, ?_, hfound m⟩
  have hserver := server_of_brokers_start hb
  exact (Option.some.inj hserver).symm

/-- Different addresses are not enough: the usual port may be written out or left out. Both
    brokers answer to their name, both offer a target of one full name, and the first of
    them is picked for both. -/
theorem different_addresses_same_name :
    let first := Server.atPieces [0, 0, 0, 0, 0, 0, 0, 1]
    let second : Server := { first with url := { first.url with port := some 5000 } }
    let c : Config := ⟨"/state", "/share", [first, second], "warn", .compact, 1, "make"⟩
    let inventory := Node.file (Utf8.encode "[\x7b\"id\": \"q\"\x7d]".toList) 0o600
    let m : Machine := { (default : Machine) with
      files := ⟨[(["state", "targets-http[1].json"], inventory),
        (["state", "targets-http[1]5000.json"], inventory), (["state"], .directory 0o700)]⟩ }
    let s := ((start c).run m).1
    Server.parse "http://[::1]" = .ok first ∧ Server.parse "http://[::1]:5000" = .ok second ∧
      first.url ≠ second.url ∧ first.url.serialize ≠ second.url.serialize ∧
      s.targets = [⟨"q", "[::1]_5000/q", 0, false⟩, ⟨"q", "[::1]_5000/q", 1, false⟩] ∧
      s.brokers.map Broker.name = ["[::1]_5000", "[::1]_5000"] ∧
      (((s.resolveBroker "[::1]_5000").run m).1.toOption.map Broker.server = some first) ∧
      ((s.resolveBroker "[::1]_5000/q").run m).1.toOption.map Broker.server = some first := by
  decide +kernel

end Session

end BrokerClient
