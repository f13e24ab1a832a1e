import BrokerClient.Proofs.Json.Fields
import BrokerClient.Proofs.Server.Addresses
import BrokerClient.Proofs.Session.InventoryShapes
import BrokerClient.Proofs.Session.Targets
import Mathlib.Data.List.Perm.Subperm

/-!
# Names of Targets

A name with a slash can only be a full name. A name without one is looked up among the
names that the targets have by themselves, and it is not to be ambiguous: what counts are
the targets that have it. They are numbered by their brokers in ascending order, since
they were collected broker by broker.

The lookup is meant to count brokers. It does so as long as no broker lists a name more
than once, and only then (`Session.names_counted_by_broker_iff`). An inventory that is an
object cannot do that, since it has each key once, but an array can.

## Main definitions

* `Session.listings`: The places of the brokers that list a name, as often as they do.
* `Session.servingPlaces`: The places of the brokers that list a name.
* `Session.ResolvesByBroker`: A name leads to the only broker that lists it.
* `Session.IsServed`: Every target has its broker and bears the name of it.

## Theorems

* `Session.length_servingPlaces_eq_iff`: When there are as many brokers as listings.
* `Session.IsServed.resolveTarget_cases`: What a name without a slash leads to.
* `Session.IsServed.resolvesByBroker_iff`: When listings count like brokers.
* `Session.resolveTarget_of_slash`: What a name with a slash leads to.
* `Session.pairwise_listings`: Listings are in the order of the brokers.
* `Session.count_listings_le_one`: An object lists no name twice.
* `Session.names_counted_by_broker_iff`: Names are counted by brokers if none is listed twice.
* `Session.listed_twice_ambiguous`: A broker that lists a name twice.
-/

namespace BrokerClient

namespace Session

/-- The targets that have a name by themselves. -/
def targetsNamed (s : Session) (name : String) : List Target :=
  s.targets.filter fun t => t.name = name

/-- The places of the brokers that list a name, as often as they list it. -/
def listings (s : Session) (name : String) : List Nat := (s.targetsNamed name).map Target.broker

/-- A broker lists a target of a name. -/
def Serves (s : Session) (name : String) (place : Nat) : Prop :=
  ∃ t ∈ s.targets, t.broker = place ∧ t.name = name

instance (s : Session) (name : String) : DecidablePred (s.Serves name) :=
  fun place => inferInstanceAs (Decidable (∃ t ∈ s.targets, t.broker = place ∧ t.name = name))

/-- The places of the brokers that list a name, in their order. -/
def servingPlaces (s : Session) (name : String) : List Nat :=
  (List.range s.brokers.length).filter fun place => s.Serves name place

/-- The full name of a target is made of the name of the broker at a place. -/
def IsFullNameAt (s : Session) (name : String) (place : Nat) (fullName : String) : Prop :=
  ∃ b, s.brokers[place]? = some b ∧ fullName = b.name ++ "/" ++ name

/-- A name leads to the only broker that lists it. If there are several, then each of them
    is a candidate. -/
structure ResolvesByBroker (s : Session) (name : String) : Prop where
  found : (∃ t, s.resolveTarget name = .ok t) ↔ ∃ place, s.servingPlaces name = [place]
  bears : ∀ t, s.resolveTarget name = .ok t →
    t ∈ s.targets ∧ t.name = name ∧ s.servingPlaces name = [t.broker]
  ambiguous : ∀ candidates,
    s.resolveTarget name = .error (.ambiguousTarget name candidates) ↔
      2 ≤ (s.servingPlaces name).length ∧
        List.Forall₂ (s.IsFullNameAt name) (s.servingPlaces name) candidates
  unknown : s.resolveTarget name = .error (.unknownTarget name) ↔ s.servingPlaces name = []

variable {s : Session} {name : String}

theorem mem_targetsNamed_iff {t : Target} :
    t ∈ s.targetsNamed name ↔ t ∈ s.targets ∧ t.name = name := by
  unfold targetsNamed
  rw [List.mem_filter, decide_eq_true_eq]

theorem mem_listings_iff {place : Nat} : place ∈ s.listings name ↔ s.Serves name place := by
  unfold listings Serves
  simp only [List.mem_map, mem_targetsNamed_iff, and_assoc]
  exact exists_congr fun t => and_congr_right fun _ => and_comm

/-! ## Counting -/

section Counting

variable (hlt : ∀ t ∈ s.targets, t.broker < s.brokers.length)

include hlt

theorem mem_servingPlaces_iff {place : Nat} :
    place ∈ s.servingPlaces name ↔ place ∈ s.listings name := by
  unfold servingPlaces
  rw [mem_listings_iff, List.mem_filter, List.mem_range, decide_eq_true_eq]
  refine and_iff_right_of_imp ?_
  rintro ⟨t, ht, rfl, -⟩
  exact hlt t ht

omit hlt in
theorem nodup_servingPlaces (s : Session) (name : String) : (s.servingPlaces name).Nodup :=
  List.nodup_range.filter _

variable (name) in
/-- There are at least as many listings as brokers that list a name. -/
theorem servingPlaces_subperm : (s.servingPlaces name).Subperm (s.listings name) :=
  (nodup_servingPlaces s name).subperm fun _ hplace => (mem_servingPlaces_iff hlt).mp hplace

/-- There are as many exactly if no broker lists the name twice. -/
theorem length_servingPlaces_eq_iff :
    (s.servingPlaces name).length = (s.listings name).length ↔ (s.listings name).Nodup := by
  constructor
  · intro h
    have hperm := (servingPlaces_subperm name hlt).perm_of_length_le (Nat.le_of_eq h.symm)
    exact hperm.nodup_iff.mp (nodup_servingPlaces s name)
  · intro h
    have hback : (s.listings name).Subperm (s.servingPlaces name) :=
      h.subperm fun _ hplace => (mem_servingPlaces_iff hlt).mpr hplace
    exact Nat.le_antisymm (servingPlaces_subperm name hlt).length_le hback.length_le

theorem servingPlaces_eq_nil_iff : s.servingPlaces name = [] ↔ s.listings name = [] := by
  simp only [List.eq_nil_iff_forall_not_mem, mem_servingPlaces_iff hlt]

/-- In ascending order the listings are the brokers themselves, unless one comes up twice. -/
theorem servingPlaces_eq_listings (hsorted : (s.listings name).Pairwise (· ≤ ·))
    (hnodup : (s.listings name).Nodup) : s.servingPlaces name = s.listings name := by
  have hperm := (servingPlaces_subperm name hlt).perm_of_length_le
    (Nat.le_of_eq ((length_servingPlaces_eq_iff hlt).mpr hnodup).symm)
  refine hperm.eq_of_pairwise (fun a b _ _ hab hba => Nat.le_antisymm hab hba) ?_ hsorted
  refine List.Pairwise.filter _ ?_
  exact List.pairwise_lt_range.imp Nat.le_of_lt

end Counting

/-! ## Looking up -/

/-- Every target has its broker and bears the name of it. -/
def IsServed (s : Session) : Prop :=
  ∀ t ∈ s.targets, ∃ b, s.brokers[t.broker]? = some b ∧ t.fullName = b.name ++ "/" ++ t.name

section Looking

variable (hserved : s.IsServed)

include hserved

theorem IsServed.broker_lt : ∀ t ∈ s.targets, t.broker < s.brokers.length := by
  intro t ht
  rcases hserved t ht with ⟨b, hb, -⟩
  exact (List.getElem?_eq_some_iff.mp hb).1

/-- The full names of the targets of a name, target by target. -/
theorem IsServed.forall₂_fullName :
    List.Forall₂ (s.IsFullNameAt name) (s.listings name)
      ((s.targetsNamed name).map Target.fullName) := by
  unfold listings
  rw [List.forall₂_map_left_iff, List.forall₂_map_right_iff, List.forall₂_same]
  intro t ht
  rcases mem_targetsNamed_iff.mp ht with ⟨hmem, hname⟩
  rcases hserved t hmem with ⟨b, hb, hfull⟩
  refine ⟨b, hb, ?_⟩
  rw [hfull, hname]

omit hserved in
/-- The candidates are determined by the places. -/
theorem forall₂_isFullNameAt_unique {places : List Nat} {first second : List String}
    (hfirst : List.Forall₂ (s.IsFullNameAt name) places first)
    (hsecond : List.Forall₂ (s.IsFullNameAt name) places second) : first = second := by
  refine Relator.RightUnique.forall₂ ?_ hfirst hsecond
  rintro place fullName fullName' ⟨b, hb, rfl⟩ ⟨b', hb', rfl⟩
  rw [Option.some.inj (hb.symm.trans hb')]

/-- A name without a slash is no full name, and the targets that have it are counted. -/
theorem IsServed.resolveTarget_cases (hslash : '/' ∉ name.toList) :
    (s.targetsNamed name = [] ∧ s.resolveTarget name = .error (.unknownTarget name)) ∨
    (∃ t, s.targetsNamed name = [t] ∧ s.resolveTarget name = .ok t) ∨
    (2 ≤ (s.targetsNamed name).length ∧ s.resolveTarget name =
      .error (.ambiguousTarget name ((s.targetsNamed name).map Target.fullName))) := by
  have hfind : (s.targets.find? fun t => t.fullName = name) = none := by
    refine List.find?_eq_none.mpr fun t ht hname => hslash ?_
    rcases hserved t ht with ⟨b, -, hfull⟩
    rw [← of_decide_eq_true hname, hfull]
    simp
  have hcontains : name.toList.contains '/' = false := by simpa using hslash
  have hfilter : (s.targets.filter fun t => t.name = name) = s.targetsNamed name := rfl
  unfold resolveTarget
  rw [hfind, hcontains, hfilter]
  rcases s.targetsNamed name with _ | ⟨first, _ | ⟨second, rest⟩⟩
  · exact .inl ⟨rfl, rfl⟩
  · exact .inr (.inl ⟨first, rfl, rfl⟩)
  · exact .inr (.inr ⟨Nat.le_add_left 2 rest.length, rfl⟩)

section NoSlash

variable (hslash : '/' ∉ name.toList)

include hslash

/-- A name leads to the only target that has it. -/
theorem IsServed.resolveTarget_eq_ok_iff {t : Target} :
    s.resolveTarget name = .ok t ↔
      t ∈ s.targets ∧ t.name = name ∧ s.listings name = [t.broker] := by
  rw [← and_assoc, ← mem_targetsNamed_iff]
  unfold listings
  rcases hserved.resolveTarget_cases hslash with ⟨hnil, hresolve⟩ | ⟨found, hone, hresolve⟩ |
    ⟨htwo, hresolve⟩
  · rw [hresolve, hnil]
    exact ⟨fun h => (by cases h), fun h => (by cases h.1)⟩
  · rw [hresolve, hone]
    constructor
    · intro h
      rw [Except.ok.inj h]
      exact ⟨List.mem_singleton_self t, rfl⟩
    · rintro ⟨h, -⟩
      rw [List.mem_singleton.mp h]
  · rw [hresolve]
    refine ⟨fun h => (by cases h), fun ⟨_, h⟩ => ?_⟩
    have hlength := congrArg List.length h
    rw [List.length_map, List.length_singleton] at hlength
    omega

/-- A name is ambiguous if several targets have it. -/
theorem IsServed.resolveTarget_eq_ambiguous_iff {candidates : List String} :
    s.resolveTarget name = .error (.ambiguousTarget name candidates) ↔
      2 ≤ (s.listings name).length ∧
        List.Forall₂ (s.IsFullNameAt name) (s.listings name) candidates := by
  have hnames : List.Forall₂ (s.IsFullNameAt name) (s.listings name)
      ((s.targetsNamed name).map Target.fullName) := hserved.forall₂_fullName
  have hlength : (s.listings name).length = (s.targetsNamed name).length := List.length_map _
  rw [hlength]
  rcases hserved.resolveTarget_cases hslash with ⟨hnil, hresolve⟩ | ⟨found, hone, hresolve⟩ |
    ⟨htwo, hresolve⟩
  · rw [hresolve, hnil]
    exact ⟨fun h => (by cases h), fun h => absurd h.1 (by decide)⟩
  · rw [hresolve, hone]
    exact ⟨fun h => (by cases h), fun h => absurd h.1 (by simp)⟩
  · rw [hresolve]
    constructor
    · intro h
      cases h
      exact ⟨htwo, hnames⟩
    · rintro ⟨-, hcandidates⟩
      rw [forall₂_isFullNameAt_unique hcandidates hnames]

/-- A name is unknown if no target has it. -/
theorem IsServed.resolveTarget_eq_unknown_iff :
    s.resolveTarget name = .error (.unknownTarget name) ↔ s.listings name = [] := by
  unfold listings
  rw [List.map_eq_nil_iff]
  rcases hserved.resolveTarget_cases hslash with ⟨hnil, hresolve⟩ | ⟨found, hone, hresolve⟩ |
    ⟨htwo, hresolve⟩
  · exact ⟨fun _ => hnil, fun _ => hresolve⟩
  · rw [hresolve, hone]
    exact ⟨fun h => (by cases h), fun h => (by cases h)⟩
  · rw [hresolve]
    refine ⟨fun h => (by cases h), fun h => ?_⟩
    rw [h] at htwo
    exact absurd htwo (by decide)

/-- Names are counted by brokers exactly if no broker lists the name twice. -/
theorem IsServed.resolvesByBroker_iff (hsorted : (s.listings name).Pairwise (· ≤ ·)) :
    s.ResolvesByBroker name ↔ (s.listings name).Nodup := by
  have hlt := hserved.broker_lt
  constructor
  · intro h
    rw [← length_servingPlaces_eq_iff hlt]
    have hle := (servingPlaces_subperm name hlt).length_le
    by_cases htwo : 2 ≤ (s.listings name).length
    -- The candidates are as many as the listings, and as many as the brokers.
    · have hresolve := (hserved.resolveTarget_eq_ambiguous_iff hslash).mpr
        ⟨htwo, hserved.forall₂_fullName⟩
      have hbrokers := ((h.ambiguous _).mp hresolve).2.length_eq
      rw [hbrokers, hserved.forall₂_fullName.length_eq]
    -- Otherwise there is at most one listing, and if there is one, then it has a broker.
    · by_cases hnil : s.listings name = []
      · rw [hnil, (servingPlaces_eq_nil_iff hlt).mpr hnil]
      · have hsome : s.servingPlaces name ≠ [] := mt (servingPlaces_eq_nil_iff hlt).mp hnil
        have hpos := List.length_pos_iff.mpr hsome
        omega
  · intro h
    have heq := servingPlaces_eq_listings hlt hsorted h
    refine ⟨⟨?_, ?_⟩, fun t ht => ?_, fun candidates => ?_, ?_⟩
    · rintro ⟨t, ht⟩
      exact ⟨t.broker, heq.trans ((hserved.resolveTarget_eq_ok_iff hslash).mp ht).2.2⟩
    · rintro ⟨place, hplace⟩
      rw [heq] at hplace
      rcases mem_listings_iff.mp (hplace ▸ List.mem_singleton_self place) with ⟨t, ht, rfl, hname⟩
      exact ⟨t, (hserved.resolveTarget_eq_ok_iff hslash).mpr ⟨ht, hname, hplace⟩⟩
    · rw [heq]
      exact (hserved.resolveTarget_eq_ok_iff hslash).mp ht
    · rw [heq]
      exact hserved.resolveTarget_eq_ambiguous_iff hslash
    · rw [heq]
      exact hserved.resolveTarget_eq_unknown_iff hslash

end NoSlash

end Looking

/-- A name with a slash leads to a target of that full name, if there is one. -/
theorem resolveTarget_of_slash (hslash : '/' ∈ name.toList) :
    (∀ t, s.resolveTarget name = .ok t → t ∈ s.targets ∧ t.fullName = name) ∧
      ((∃ t, s.resolveTarget name = .ok t) ↔ ∃ t ∈ s.targets, t.fullName = name) := by
  have hcontains : name.toList.contains '/' = true := by simpa using hslash
  unfold resolveTarget
  cases hfind : s.targets.find? fun t => t.fullName = name with
  | none =>
    have hnone : ∀ t ∈ s.targets, t.fullName ≠ name := by simpa using hfind
    dsimp only
    rw [if_pos hcontains]
    refine ⟨fun t h => (by cases h), fun ⟨t, h⟩ => (by cases h), fun ⟨t, ht, hname⟩ => ?_⟩
    exact absurd hname (hnone t ht)
  | some found =>
    have hmem := List.mem_of_find?_eq_some hfind
    have hname : found.fullName = name := by simpa using List.find?_some hfind
    refine ⟨fun t h => ?_, fun _ => ⟨found, hmem, hname⟩, fun _ => ⟨found, rfl⟩⟩
    rw [← Except.ok.inj h]
    exact ⟨hmem, hname⟩

/-! ## Sessions that have begun -/

section Started

variable (c : Config) (m : Machine)

theorem isServed_start : ((start c).run m).1.IsServed := by
  intro t ht
  rcases server_of_mem_targets ht with ⟨server, hserver, hfull, -⟩
  refine ⟨Broker.opened m.files m.workDirectory c.stateDirectory server, ?_, hfull⟩
  rw [getElem?_brokers_start, hserver, Option.map_some]

/-- Targets are collected broker by broker. -/
theorem pairwise_broker_start :
    ((start c).run m).1.targets.Pairwise fun t t' => t.broker ≤ t'.broker := by
  have hplaces : c.servers.zipIdx.Pairwise fun x y => x.2 < y.2 := by
    have hsnd : (c.servers.zipIdx.map Prod.snd).Pairwise (· < ·) := by
      rw [List.zipIdx_map_snd]
      exact List.pairwise_lt_range'
    exact List.pairwise_map.mp hsnd
  rw [targets_start, List.pairwise_flatMap]
  refine ⟨fun x _ => ?_, hplaces.imp fun {x y} hlt t ht t' ht' => ?_⟩
  · refine List.pairwise_of_forall_mem_list fun t ht t' ht' => ?_
    rw [(Inventory.of_mem_recorded ht).1, (Inventory.of_mem_recorded ht').1]
  · rw [(Inventory.of_mem_recorded ht).1, (Inventory.of_mem_recorded ht').1]
    exact Nat.le_of_lt hlt

/-- Listings are in the order of the brokers. -/
theorem pairwise_listings (name : String) :
    (((start c).run m).1.listings name).Pairwise (· ≤ ·) := by
  unfold listings targetsNamed
  rw [List.pairwise_map]
  exact (pairwise_broker_start c m).filter _

variable {c m}

/-- A broker lists a name as often as its inventory has it. -/
theorem count_listings {place : Nat} {server : Server} (hserver : c.servers[place]? = some server)
    (name : String) :
    (((start c).run m).1.listings name).count place =
      (Inventory.recorded m.files m.workDirectory c.stateDirectory server place).countP
        fun t => t.name = name := by
  rw [← targets_at_place hserver, List.countP_filter]
  unfold listings targetsNamed
  rw [List.count_eq_countP, List.countP_map, List.countP_filter]
  refine List.countP_congr fun t _ => ?_
  simp [and_comm]

/-- An inventory that is an object lists no name twice. -/
theorem count_listings_le_one {place : Nat} {server : Server}
    (hserver : c.servers[place]? = some server) {content : List UInt8}
    (hread : m.files.read m.workDirectory (c.stateDirectory.inventoryPath server) = .ok content)
    {fields : List (String × Json)} (hparse : Json.parse content = .ok (.object fields))
    (name : String) : (((start c).run m).1.listings name).count place ≤ 1 := by
  have hkeys : (fields.map Prod.fst).Nodup :=
    KeyedList.nodup_keys (Json.isSorted_of_parse hparse fields rfl)
  have hrecorded : Inventory.recorded m.files m.workDirectory c.stateDirectory server place =
      Inventory.targets (.object fields) server.name place := by
    unfold Inventory.recorded
    simp only [hread, hparse]
  rw [count_listings hserver, hrecorded]
  -- The names of the targets are the keys.
  rw [← Inventory.map_name_targets_object server.name place] at hkeys
  have hcount := List.nodup_iff_count.mp hkeys name
  rwa [List.count_eq_countP, List.countP_map] at hcount

end Started

/-- A name without a slash leads to the only target that has it. It is ambiguous if several
    have it, with a candidate for each of them in the order of the brokers, and unknown if
    none has. So names are counted by brokers if and only if no broker lists the name
    twice. A name with a slash leads to a target of that full name, if there is one. -/
theorem names_counted_by_broker_iff (c : Config) (m : Machine) (name : String) :
    let s := ((start c).run m).1
    ('/' ∈ name.toList →
      (∀ t, s.resolveTarget name = .ok t → t ∈ s.targets ∧ t.fullName = name) ∧
      ((∃ t, s.resolveTarget name = .ok t) ↔ ∃ t ∈ s.targets, t.fullName = name)) ∧
    ('/' ∉ name.toList →
      (∀ t, s.resolveTarget name = .ok t ↔
        t ∈ s.targets ∧ t.name = name ∧ s.listings name = [t.broker]) ∧
      (∀ candidates, s.resolveTarget name = .error (.ambiguousTarget name candidates) ↔
        2 ≤ (s.listings name).length ∧
          List.Forall₂ (s.IsFullNameAt name) (s.listings name) candidates) ∧
      (s.resolveTarget name = .error (.unknownTarget name) ↔ s.listings name = []) ∧
      (s.listings name).Pairwise (· ≤ ·) ∧
      (s.ResolvesByBroker name ↔ ∀ place, (s.listings name).count place ≤ 1)) := by
  intro s
  have hserved : s.IsServed := isServed_start c m
  refine ⟨resolveTarget_of_slash, fun hslash => ⟨fun t => ?_, fun candidates => ?_, ?_, ?_, ?_⟩⟩
  · exact hserved.resolveTarget_eq_ok_iff hslash
  · exact hserved.resolveTarget_eq_ambiguous_iff hslash
  · exact hserved.resolveTarget_eq_unknown_iff hslash
  · exact pairwise_listings c m name
  · rw [← List.nodup_iff_count]
    exact hserved.resolvesByBroker_iff hslash (pairwise_listings c m name)

/-- One broker that lists a name twice. The name is taken for ambiguous, although nobody
    else lists it, and the two candidates are the same. -/
theorem listed_twice_ambiguous :
    let server := Server.atPieces [0, 0, 0, 0, 0, 0, 0, 1]
    let c : Config := ⟨"/state", "/share", [server], "warn", .compact, 1, "make"⟩
    let document := "[\x7b\"id\":\"q\"\x7d,\x7b\"id\":\"q\"\x7d]"
    let m : Machine := { (default : Machine) with
      files := ⟨[(["state", "targets-http[1].json"], .file (Utf8.encode document.toList) 0o600),
        (["state"], .directory 0o700)]⟩ }
    let s := ((start c).run m).1
    s.servingPlaces "q" = [0] ∧
      s.resolveTarget "q" =
        .error (.ambiguousTarget "q" ["[::1]_5000/q", "[::1]_5000/q"]) ∧
      ¬ s.ResolvesByBroker "q" := by
  intro server c document m s
  have hserving : s.servingPlaces "q" = [0] := by decide +kernel
  have hresolve : s.resolveTarget "q" =
      .error (.ambiguousTarget "q" ["[::1]_5000/q", "[::1]_5000/q"]) := by decide +kernel
  refine ⟨hserving, hresolve, fun h => ?_⟩
  rcases h.found.mpr ⟨0, hserving⟩ with ⟨t, ht⟩
  rw [hresolve] at ht
  cases ht

end Session

end BrokerClient
