/-!
# Keyed Lists

Finite maps from texts as lists of pairs in ascending order of their keys, with
no key twice. Texts are ordered by code point, which is also the order of their
UTF-8 bytes. Cookie jars, JSON objects and command registries are kept this
way, because what they print is sorted.

## Main definitions

* `KeyedList.insert`: Adds an entry, replacing one with the same key.
* `KeyedList.lookup`: The value of a key.
* `KeyedList.erase`: Removes the entry of a key.
* `KeyedList.ofList`: Inserts the pairs of a list one after the other.
* `KeyedList.Ascending`: The order of the keys that `insert` keeps.

## Theorems

* `KeyedList.lookup_insert`: What is found after an entry was added.
* `KeyedList.ascending_insert`, `KeyedList.ascending_ofList`: The keys stay in order.
* `KeyedList.mem_of_lookup_ofList`: What is found was inserted.
-/

namespace BrokerClient

namespace KeyedList

variable {α : Type}

/-- Adds an entry at its place, replacing the one with the same key. -/
def insert (key : String) (value : α) : List (String × α) → List (String × α)
  | [] => [(key, value)]
  | (k, v) :: r =>
    if key < k then (key, value) :: (k, v) :: r
    else if key = k then (key, value) :: r
    else (k, v) :: insert key value r

/-- The value of a key. -/
def lookup (key : String) : List (String × α) → Option α
  | [] => none
  | (k, v) :: r => if key = k then some v else lookup key r

/-- The list without the entry of a key. -/
def erase (key : String) (entries : List (String × α)) : List (String × α) :=
  entries.filter fun e => e.1 ≠ key

/-- The entries of a list inserted one after the other, so that the last one
    of a key stays. -/
def ofList (entries : List (String × α)) : List (String × α) :=
  entries.foldl (fun done e => insert e.1 e.2 done) []

/-- The keys ascend strictly. -/
def Ascending (entries : List (String × α)) : Prop :=
  (entries.map Prod.fst).Pairwise (· < ·)

/-- Inserting makes the new value the value of its key and leaves the values
    of all other keys alone. -/
theorem lookup_insert (key k : String) (value : α) (entries : List (String × α)) :
    lookup k (insert key value entries) = if k = key then some value else lookup k entries := by
  induction entries with
  | nil => simp [insert, lookup]
  | cons e r ih =>
    obtain ⟨k', v'⟩ := e
    simp only [insert]
    split
    · simp [lookup]
    · split
      · next h =>
        subst h
        by_cases hk : k = key <;> simp [lookup, hk]
      · next hne =>
        simp only [lookup, ih]
        by_cases hk : k = k'
        · subst hk
          simp [Ne.symm hne]
        · simp [hk]

theorem mem_keys_insert {key k : String} {value : α} {entries : List (String × α)} :
    k ∈ (insert key value entries).map Prod.fst ↔ k = key ∨ k ∈ entries.map Prod.fst := by
  induction entries with
  | nil => simp [insert]
  | cons e r ih =>
    obtain ⟨k', v'⟩ := e
    simp only [insert]
    split
    · simp
    · split
      · next h =>
        subst h
        simp
      · simp only [List.map_cons, List.mem_cons, ih]
        exact or_left_comm

/-- Inserting keeps the keys in order. -/
theorem ascending_insert {entries : List (String × α)} (h : Ascending entries) (key : String)
    (value : α) : Ascending (insert key value entries) := by
  induction entries with
  | nil => exact List.pairwise_singleton _ _
  | cons e r ih =>
    obtain ⟨k', v'⟩ := e
    have hcons := List.pairwise_cons.mp h
    simp only [insert]
    split
    · next hlt =>
      refine List.pairwise_cons.mpr ⟨fun k hk => ?_, h⟩
      rcases List.mem_cons.mp hk with rfl | hk
      · exact hlt
      · exact String.lt_trans hlt (hcons.1 k hk)
    · next hnlt =>
      split
      · next heq =>
        subst heq
        exact h
      · next hne =>
        -- The key goes somewhere behind the first one, which is smaller.
        have hlt : k' < key := Std.lt_of_le_of_ne (String.not_lt.mp hnlt) (Ne.symm hne)
        refine List.pairwise_cons.mpr ⟨fun k hk => ?_, ih hcons.2⟩
        rcases mem_keys_insert.mp hk with rfl | hk
        · exact hlt
        · exact hcons.1 k hk

theorem ascending_ofList (entries : List (String × α)) : Ascending (ofList entries) := by
  suffices h : ∀ done, Ascending done →
      Ascending (entries.foldl (fun done e => insert e.1 e.2 done) done) from h [] .nil
  induction entries with
  | nil => exact fun _ hdone => hdone
  | cons e r ih => exact fun done hdone => ih _ (ascending_insert hdone e.1 e.2)

/-- What is found in a list was among the entries that were inserted. -/
theorem mem_of_lookup_ofList {entries : List (String × α)} {key : String} {value : α}
    (h : lookup key (ofList entries) = some value) : (key, value) ∈ entries := by
  suffices hfold : ∀ done, lookup key (entries.foldl (fun done e => insert e.1 e.2 done) done) =
      some value → (key, value) ∈ entries ∨ lookup key done = some value from
    (hfold [] h).resolve_right nofun
  clear h
  induction entries with
  | nil => exact fun _ h => .inr h
  | cons e r ih =>
    obtain ⟨k, v⟩ := e
    intro done h
    rcases ih _ h with hmem | hdone
    · exact .inl (List.mem_cons_of_mem _ hmem)
    · rw [lookup_insert] at hdone
      split at hdone
      · next heq =>
        obtain rfl : v = value := Option.some.inj hdone
        rw [heq]
        exact .inl List.mem_cons_self
      · exact .inr hdone

end KeyedList

end BrokerClient
