import BrokerClient.Proofs.Session.Opening

/-!
# Targets and Their Brokers

A target holds the place of its broker as a number. Targets and brokers are collected
in two lists, and an inventory that cannot be used adds nothing to the first one and
nothing is missing from the second. So the number has to be right whatever became of
the inventories before.

It is, since a session begins as `Session.opened` says: the targets of a server are
numbered by the place of the server in the configuration, where its broker stands too.
A target that a name leads to is one of them, and so its broker is found.

## Theorems

* `Inventory.of_mem_recorded`: Targets bear the number and the name of their server.
* `Session.targets_at_place`: The targets with a number are those of one inventory.
* `Session.server_of_mem_targets`: Each target is listed by the server of its number.
* `Session.mem_of_resolveTarget`: A name leads to a target that bears it.
* `Session.targets_found_at_brokers`: Targets point at the brokers that serve them.
-/

namespace BrokerClient

namespace Inventory

variable {t : FileTree} {work : Place} {d : StateDirectory} {server : Server} {broker : Nat}
  {target : Target}

theorem of_mem_targets {document : Json} {serverName : String}
    (h : target ∈ targets document serverName broker) :
    target.broker = broker ∧ target.fullName = serverName ++ "/" ++ target.name := by
  rcases List.mem_map.mp h with ⟨entry, -, rfl⟩
  exact ⟨rfl, rfl⟩

theorem of_mem_recorded (h : target ∈ recorded t work d server broker) :
    target.broker = broker ∧ target.fullName = server.name ++ "/" ++ target.name := by
  unfold recorded at h
  split at h
  · cases h
  · split at h
    · exact of_mem_targets h
    · cases h

/-- An inventory has the number of its server throughout. -/
theorem filter_recorded_self :
    (recorded t work d server broker).filter (·.broker = broker) =
      recorded t work d server broker := by
  refine List.filter_eq_self.mpr fun target htarget => ?_
  simpa using (of_mem_recorded htarget).1

theorem filter_recorded_of_ne {other : Nat} (h : broker ≠ other) :
    (recorded t work d server broker).filter (·.broker = other) = [] := by
  refine List.filter_eq_nil_iff.mpr fun target htarget => ?_
  rw [(of_mem_recorded htarget).1]
  simpa using h

end Inventory

namespace Session

/-- A server with a key that occurs once is at one place. -/
theorem place_eq_of_nodup {κ : Type} {key : Server → κ} {servers : List Server}
    (h : (servers.map key).Nodup) {i j : Nat} {server server' : Server}
    (hi : servers[i]? = some server) (hj : servers[j]? = some server')
    (hkey : key server = key server') : i = j := by
  have hlt : i < (servers.map key).length := by
    rw [List.length_map]
    exact (List.getElem?_eq_some_iff.mp hi).1
  refine (List.getElem?_inj hlt h).mp ?_
  rw [List.getElem?_map, List.getElem?_map, hi, hj, Option.map_some, Option.map_some, hkey]

section Numbering

variable (t : FileTree) (work : Place) (d : StateDirectory)

/-- The targets with a number are those of one inventory, in its order. The servers
    here are the last ones of a configuration, and the first of them has number `k`. -/
theorem filter_recorded (servers : List Server) (k : Nat) {i : Nat} {server : Server}
    (hserver : servers[i]? = some server) :
    ((servers.zipIdx k).flatMap fun s => Inventory.recorded t work d s.1 s.2).filter
        (·.broker = k + i) = Inventory.recorded t work d server (k + i) := by
  induction servers generalizing k i with
  | nil => cases hserver
  | cons first servers ih =>
    rw [List.zipIdx_cons, List.flatMap_cons, List.filter_append]
    cases i with
    | zero =>
      -- The first server has this number, and none behind it.
      obtain rfl : first = server := by simpa using hserver
      -- All servers behind the first one have greater numbers.
      have hrest : ((servers.zipIdx (k + 1)).flatMap fun s =>
          Inventory.recorded t work d s.1 s.2).filter (·.broker = k) = [] := by
        rw [List.filter_flatMap, List.flatMap_eq_nil_iff]
        intro s hs
        have hle := (List.mem_zipIdx hs).1
        exact Inventory.filter_recorded_of_ne (by omega)
      rw [Nat.add_zero, hrest, List.append_nil]
      exact Inventory.filter_recorded_self
    | succ i =>
      -- The first server has a smaller number.
      have hrest := ih (k + 1) (by simpa using hserver)
      rw [Nat.add_assoc, Nat.add_comm 1 i] at hrest
      rw [Inventory.filter_recorded_of_ne (by omega), List.nil_append]
      exact hrest

end Numbering

section Started

variable {c : Config} {m : Machine}

theorem targets_at_place {i : Nat} {server : Server} (h : c.servers[i]? = some server) :
    ((start c).run m).1.targets.filter (·.broker = i) =
      Inventory.recorded m.files m.workDirectory c.stateDirectory server i := by
  have hfilter := filter_recorded m.files m.workDirectory c.stateDirectory c.servers 0 h
  rw [Nat.zero_add] at hfilter
  rw [targets_start]
  exact hfilter

/-- Each target is listed in the inventory of the server whose number it bears. -/
theorem server_of_mem_targets {target : Target} (h : target ∈ ((start c).run m).1.targets) :
    ∃ server, c.servers[target.broker]? = some server ∧
      target.fullName = server.name ++ "/" ++ target.name ∧
      target ∈ Inventory.recorded m.files m.workDirectory c.stateDirectory server
        target.broker := by
  rw [targets_start] at h
  rcases List.mem_flatMap.mp h with ⟨⟨server, i⟩, hmem, hlisted⟩
  rcases Inventory.of_mem_recorded hlisted with ⟨hnumber, hfull⟩
  rw [hnumber]
  exact ⟨server, List.mk_mem_zipIdx_iff_getElem?.mp hmem, hfull, hlisted⟩

end Started

/-- A name leads to a target that bears it, in full or without its server. -/
theorem mem_of_resolveTarget {s : Session} {name : String} {target : Target}
    (h : s.resolveTarget name = .ok target) :
    target ∈ s.targets ∧ (target.fullName = name ∨ target.name = name) := by
  unfold resolveTarget at h
  split at h
  · next found hfind =>
    -- A full name, which is looked for among all targets.
    obtain rfl : found = target := Except.ok.inj h
    have hfull := List.find?_some hfind
    exact ⟨List.mem_of_find?_eq_some hfind, .inl (by simpa using hfull)⟩
  · split at h
    · cases h
    · split at h
      · cases h
      · next found hfilter =>
        -- A name that only one target has.
        obtain rfl : found = target := Except.ok.inj h
        have hmem : found ∈ s.targets.filter fun t => t.name = name := by
          rw [hfilter]
          exact List.mem_singleton_self found
        rcases List.mem_filter.mp hmem with ⟨hmem, hname⟩
        exact ⟨hmem, .inr (by simpa using hname)⟩
      · cases h

/-- What a name leads to that is not the name of a broker. -/
theorem run_resolveBroker_of_not_answersTo {s : Session} {name : String}
    (h : ∀ b ∈ s.brokers, b.answersTo name = false) (m : Machine) :
    ((s.resolveBroker name).run m).1 =
      match s.resolveTarget name with
      | .error e => .error e
      | .ok target =>
        match s.brokers[target.broker]? with
        | some b => .ok b
        | none => .error (.unknownTarget name) := by
  have hnone : (s.brokers.find? fun b => b.answersTo name) = none :=
    List.find?_eq_none.mpr fun b hb => by simp [h b hb]
  unfold resolveBroker
  rw [hnone]
  cases s.resolveTarget name with
  | error e => rfl
  | ok target =>
    dsimp only
    rw [Action.run_bind]
    cases s.brokers[target.broker]? <;> rfl

/-- Targets point at the brokers that serve them. They are those of all inventories,
    server by server, and each of them bears the number and the name of the server
    whose inventory lists it. What becomes of one inventory does not change the
    numbers of other targets. So a name that leads to a target leads to its broker. -/
theorem targets_found_at_brokers (c : Config) (m : Machine) :
    let s := ((start c).run m).1
    let recorded := Inventory.recorded m.files m.workDirectory c.stateDirectory
    s.targets = (c.servers.zipIdx.flatMap fun x => recorded x.1 x.2) ∧
    (∀ i server, c.servers[i]? = some server →
      s.targets.filter (·.broker = i) = recorded server i) ∧
    (∀ target ∈ s.targets, target.broker < s.brokers.length ∧
      ∃ b, s.brokers[target.broker]? = some b ∧
        target.fullName = b.name ++ "/" ++ target.name ∧
        target ∈ recorded b.server target.broker) ∧
    ∀ name m', (∀ b ∈ s.brokers, b.answersTo name = false) →
      (∃ e, s.resolveTarget name = .error e ∧ ((s.resolveBroker name).run m').1 = .error e) ∨
      ∃ target b, s.resolveTarget name = .ok target ∧ target ∈ s.targets ∧
        (target.fullName = name ∨ target.name = name) ∧
        s.brokers[target.broker]? = some b ∧ ((s.resolveBroker name).run m').1 = .ok b := by
  intro s recorded
  have hserved : ∀ target ∈ s.targets, ∃ b, s.brokers[target.broker]? = some b ∧
      target.fullName = b.name ++ "/" ++ target.name ∧
      target ∈ recorded b.server target.broker := by
    intro target htarget
    rcases server_of_mem_targets htarget with ⟨server, hserver, hfull, hlisted⟩
    refine ⟨_, by rw [getElem?_brokers_start, hserver]; rfl, ?_, ?_⟩
    · exact hfull
    · rw [Broker.server_opened]
      exact hlisted
  refine ⟨targets_start c m, fun i server => targets_at_place, fun target htarget => ?_,
    fun name m' hname => ?_⟩
  · rcases hserved target htarget with ⟨b, hb, hrest⟩
    exact ⟨(List.getElem?_eq_some_iff.mp hb).1, b, hb, hrest⟩
  · rw [run_resolveBroker_of_not_answersTo hname]
    cases hresolve : s.resolveTarget name with
    | error e => exact .inl ⟨e, rfl, rfl⟩
    | ok target =>
      rcases mem_of_resolveTarget hresolve with ⟨hmem, hbears⟩
      rcases hserved target hmem with ⟨b, hb, -⟩
      exact .inr ⟨target, b, rfl, hmem, hbears, hb, by simp only [hb]⟩

end Session

end BrokerClient
