import BrokerClient.KeyedList
import Mathlib.Data.List.Dedup
import Mathlib.Data.List.Induction

/-!
# What Keyed Lists Hold

A keyed list that is made from pairs has each of their keys once, with the value of the last
pair that has the key. So it has as many entries as there are different keys, and it has an
entry for every pair only if no key occurs twice.

## Theorems

* `KeyedList.lookup_eq_some_iff`: Where the keys ascend, every entry is found.
* `KeyedList.eq_of_lookup_eq`: Lists in which the same is found are the same.
* `KeyedList.lookup_ofList`: The last value of a key is kept.
* `KeyedList.mem_keys_ofList`: All keys are kept.
* `KeyedList.length_ofList`: There are as many entries as different keys.
* `KeyedList.ofList_perm_iff`: All pairs are kept exactly if no key occurs twice.
* `KeyedList.ofList_map`: Values may be changed before or afterwards.
-/

namespace BrokerClient

namespace KeyedList

variable {α β : Type}

theorem ofList_concat (entries : List (String × α)) (key : String) (value : α) :
    ofList (entries ++ [(key, value)]) = insert key value (ofList entries) := by
  unfold ofList
  rw [List.foldl_append]
  rfl

/-- The first one with a key is found. -/
theorem lookup_map (key : α → String) (value : α → β) (k : String) (items : List α) :
    lookup k (items.map fun a => (key a, value a)) =
      (items.find? fun a => key a = k).map value := by
  induction items with
  | nil => rfl
  | cons a items ih =>
    rw [List.map_cons, lookup]
    by_cases h : key a = k
    · rw [if_pos h.symm, List.find?_cons_of_pos (by simpa using h), Option.map_some]
    · rw [if_neg (Ne.symm h), List.find?_cons_of_neg (by simpa using h), ih]

/-- What is found is an entry. -/
theorem mem_of_lookup {entries : List (String × α)} {key : String} {value : α}
    (h : lookup key entries = some value) : (key, value) ∈ entries := by
  induction entries with
  | nil => cases h
  | cons entry entries ih =>
    obtain ⟨k, v⟩ := entry
    rw [lookup] at h
    split at h
    · next hkey =>
      rw [hkey, Option.some.inj h]
      exact List.mem_cons_self
    · exact List.mem_cons_of_mem _ (ih h)

/-- Where the keys ascend, every entry is found. -/
theorem lookup_eq_some_iff {entries : List (String × α)} (h : Ascending entries) {key : String}
    {value : α} : lookup key entries = some value ↔ (key, value) ∈ entries := by
  refine ⟨mem_of_lookup, fun hmem => ?_⟩
  induction entries with
  | nil => cases hmem
  | cons entry entries ih =>
    obtain ⟨k, v⟩ := entry
    rcases List.pairwise_cons.mp h with ⟨hfirst, hrest⟩
    rw [lookup]
    rcases List.mem_cons.mp hmem with heq | hbehind
    · cases heq
      exact if_pos rfl
    · have hlt : k < key := hfirst key (List.mem_map_of_mem hbehind)
      have hne : key ≠ k := fun heq => String.lt_irrefl key (heq ▸ hlt)
      rw [if_neg hne]
      exact ih hrest hbehind

/-- Keys that ascend do not repeat. -/
theorem nodup_keys {entries : List (String × α)} (h : Ascending entries) :
    (entries.map Prod.fst).Nodup := by
  refine h.imp ?_
  rintro key _ hlt rfl
  exact String.lt_irrefl key hlt

/-- Lists in which the same is found are the same, for their entries have one order only. -/
theorem eq_of_lookup_eq {entries others : List (String × α)} (h : Ascending entries)
    (hothers : Ascending others) (hsame : ∀ key, lookup key entries = lookup key others) :
    entries = others := by
  have hmem : ∀ entry, entry ∈ entries ↔ entry ∈ others := by
    rintro ⟨key, value⟩
    rw [← lookup_eq_some_iff h, hsame key, lookup_eq_some_iff hothers]
  have hperm : entries.Perm others :=
    (List.perm_ext_iff_of_nodup (nodup_keys h).of_map (nodup_keys hothers).of_map).mpr hmem
  refine hperm.eq_of_pairwise ?_ (List.pairwise_map.mp h) (List.pairwise_map.mp hothers)
  intro a b _ _ hab hba
  exact absurd (String.lt_trans hab hba) (String.lt_irrefl a.1)

/-- What is found among changed values is what was found, changed. -/
theorem lookup_map_snd (f : α → β) (key : String) (entries : List (String × α)) :
    lookup key (entries.map fun e => (e.1, f e.2)) = (lookup key entries).map f := by
  induction entries with
  | nil => rfl
  | cons entry entries ih =>
    rw [List.map_cons, lookup, lookup, ih]
    split <;> rfl

theorem ascending_map_snd {f : α → β} {entries : List (String × α)} (h : Ascending entries) :
    Ascending (entries.map fun e => (e.1, f e.2)) := by
  unfold Ascending
  rw [List.map_map]
  exact h

/-- The last value of a key is kept. -/
theorem lookup_ofList (key : String) (entries : List (String × α)) :
    lookup key (ofList entries) = lookup key entries.reverse := by
  induction entries using List.reverseRecOn with
  | nil => rfl
  | append_singleton entries last ih =>
    obtain ⟨k, value⟩ := last
    rw [ofList_concat, lookup_insert, ih, List.reverse_concat, lookup]

theorem mem_keys_ofList {key : String} {entries : List (String × α)} :
    key ∈ (ofList entries).map Prod.fst ↔ key ∈ entries.map Prod.fst := by
  induction entries using List.reverseRecOn with
  | nil => rfl
  | append_singleton entries last ih =>
    obtain ⟨k, value⟩ := last
    rw [ofList_concat, mem_keys_insert, ih, List.map_append, List.mem_append, or_comm]
    simp

theorem mem_insert {entry : String × α} {key : String} {value : α}
    {entries : List (String × α)} (h : entry ∈ insert key value entries) :
    entry = (key, value) ∨ entry ∈ entries := by
  induction entries with
  | nil => exact .inl (List.mem_singleton.mp h)
  | cons first entries ih =>
    obtain ⟨k, v⟩ := first
    rw [insert] at h
    split at h
    · exact List.mem_cons.mp h
    · split at h
      · exact (List.mem_cons.mp h).imp_right (List.mem_cons_of_mem _)
      · rcases List.mem_cons.mp h with rfl | h
        · exact .inr List.mem_cons_self
        · exact (ih h).imp_right (List.mem_cons_of_mem _)

/-- Nothing is kept that was not there. -/
theorem mem_of_mem_ofList {entry : String × α} {entries : List (String × α)}
    (h : entry ∈ ofList entries) : entry ∈ entries := by
  induction entries using List.reverseRecOn with
  | nil => exact h
  | append_singleton entries last ih =>
    rw [ofList_concat] at h
    rcases mem_insert h with rfl | h
    · exact List.mem_append_right _ List.mem_cons_self
    · exact List.mem_append_left _ (ih h)

theorem nodup_keys_ofList (entries : List (String × α)) :
    ((ofList entries).map Prod.fst).Nodup :=
  nodup_keys (ascending_ofList entries)

/-- There are as many entries as different keys. -/
theorem length_ofList (entries : List (String × α)) :
    (ofList entries).length = (entries.map Prod.fst).dedup.length := by
  have hperm : ((ofList entries).map Prod.fst).Perm (entries.map Prod.fst).dedup := by
    refine (List.perm_ext_iff_of_nodup (nodup_keys_ofList entries) (List.nodup_dedup _)).mpr ?_
    intro key
    rw [mem_keys_ofList, List.mem_dedup]
  rw [← List.length_map, hperm.length_eq]

theorem length_ofList_eq_iff {entries : List (String × α)} :
    (ofList entries).length = entries.length ↔ (entries.map Prod.fst).Nodup := by
  have hlength : entries.length = (entries.map Prod.fst).length :=
    (List.length_map Prod.fst).symm
  rw [length_ofList, hlength, ← List.dedup_eq_self]
  exact ⟨(List.dedup_sublist _).eq_of_length, congrArg List.length⟩

theorem insert_perm {key : String} {entries : List (String × α)}
    (h : key ∉ entries.map Prod.fst) (value : α) :
    (insert key value entries).Perm ((key, value) :: entries) := by
  induction entries with
  | nil => exact .refl _
  | cons entry entries ih =>
    obtain ⟨k, v⟩ := entry
    rw [List.map_cons, List.mem_cons, not_or] at h
    rw [insert]
    split
    · exact .refl _
    · rw [if_neg h.1]
      exact ((ih h.2).cons _).trans (.swap _ _ _)

/-- All pairs are kept exactly if no key occurs twice. -/
theorem ofList_perm_iff {entries : List (String × α)} :
    (ofList entries).Perm entries ↔ (entries.map Prod.fst).Nodup := by
  refine ⟨fun hperm => (hperm.map Prod.fst).nodup_iff.mp (nodup_keys_ofList entries), fun h => ?_⟩
  induction entries using List.reverseRecOn with
  | nil => exact .refl _
  | append_singleton entries last ih =>
    obtain ⟨k, value⟩ := last
    rw [List.map_append, List.nodup_append] at h
    have hnew : k ∉ (ofList entries).map Prod.fst := fun hmem =>
      h.2.2 k (mem_keys_ofList.mp hmem) k List.mem_cons_self rfl
    rw [ofList_concat]
    exact (insert_perm hnew value).trans (((ih h.1).cons _).trans
      (List.perm_append_singleton _ _).symm)

/-- Values may be changed before or afterwards. -/
theorem insert_map (f : α → β) (key : String) (value : α) (entries : List (String × α)) :
    insert key (f value) (entries.map fun e => (e.1, f e.2)) =
      (insert key value entries).map fun e => (e.1, f e.2) := by
  induction entries with
  | nil => rfl
  | cons entry entries ih =>
    rw [List.map_cons, insert, insert]
    split
    · rfl
    · split
      · rfl
      · rw [List.map_cons, ih]

theorem ofList_map (f : α → β) (entries : List (String × α)) :
    ofList (entries.map fun e => (e.1, f e.2)) = (ofList entries).map fun e => (e.1, f e.2) := by
  induction entries using List.reverseRecOn with
  | nil => rfl
  | append_singleton entries last ih =>
    rw [List.map_append, List.map_singleton, ofList_concat, ih, insert_map, ofList_concat]

end KeyedList

end BrokerClient
