import BrokerClient.Proofs.KeyedLists
import BrokerClient.Session.Target
import Mathlib.Data.List.Forall2

/-!
# The Two Shapes of an Inventory

An inventory is an object with an entry for every target under its name, or an array of objects
that hold the name in a field. The two are read by different rules: of an object every entry
counts, whatever it is, and of an array the items that have a text for a name.

Once a target has its name, the entry says no more than whether it is disabled, and for that one
field of it matters. So an entry may as well be an item, with the name put into its field for it
(`Inventory.itemOf`). A name that the entry had there before is lost, but it was not read either.

## Main definitions

* `Inventory.itemName?`: The name of an item of an array.
* `Inventory.itemOf`: An entry of an object as an item of an array.
* `Inventory.IsTargetOf`: What a target has from its name and its entry.

## Theorems

* `Inventory.targets_object`, `Inventory.targets_array`: The targets of each shape.
* `Inventory.targets_itemOf`: Entries may be written as items.
* `Inventory.forall₂_targets_object`: An object has one target for each key.
* `Inventory.forall₂_targets_array`: An array has one target for each item with a name.
* `Inventory.shapes_list_alike`: The two shapes describe the same targets.
-/

namespace BrokerClient

theorem Json.isNull_eq_true_iff (document : Json) :
    document.isNull = true ↔ document = .null := by
  cases document <;> simp [isNull]

namespace Inventory

/-- The name of an item of an array, if it is an object with a text in the field for names. -/
def itemName? (item : Json) : Option String := (item.field? "id").bind Json.text?

/-- An entry of an object as an item of an array: its fields with its name among them, in place
    of the one that may be there. An entry that is no object has no other fields. -/
def itemOf (name : String) : Json → Json
  | .object fields => .object (KeyedList.insert "id" (.string name) fields)
  | _ => .object [("id", .string name)]

/-- A target bears a name and belongs to a server, and it is disabled exactly if its entry has a
    mark for that which is not `null`. -/
structure IsTargetOf (serverName : String) (broker : Nat) (name : String) (entry : Json)
    (target : Target) : Prop where
  bears : target.name = name
  full : target.fullName = serverName ++ "/" ++ name
  belongs : target.broker = broker
  disabled_iff : target.disabled = true ↔
    ∃ mark, entry.field? "disabled" = some mark ∧ mark ≠ .null

/-- The target of a name with the entry that belongs to it. -/
def targetOf (serverName : String) (broker : Nat) (name : String) (entry : Json) : Target :=
  Target.create name serverName broker (isDisabled (entry.fields?.getD []))

/-- The target of an item, if it has a name. -/
def targetOfItem? (serverName : String) (broker : Nat) (item : Json) : Option Target :=
  (itemName? item).map fun name => targetOf serverName broker name item

variable (serverName : String) (broker : Nat)

/-! ## Entries and items -/

/-- All that is read of an entry is the mark. -/
theorem isDisabled_fields (entry : Json) :
    isDisabled (entry.fields?.getD []) =
      (entry.field? "disabled").any fun mark => !mark.isNull := by
  unfold isDisabled Json.field?
  cases entry.fields? with
  | none => rfl
  | some fields =>
    rw [Option.getD_some, Option.bind_some]
    cases KeyedList.lookup "disabled" fields <;> rfl

theorem isTargetOf_targetOf (name : String) (entry : Json) :
    IsTargetOf serverName broker name entry (targetOf serverName broker name entry) where
  bears := rfl
  full := rfl
  belongs := rfl
  disabled_iff := by
    unfold targetOf Target.create
    rw [isDisabled_fields, Option.any_eq_true]
    refine exists_congr fun mark => and_congr_right fun _ => ?_
    rw [Bool.not_eq_true', ← Bool.not_eq_true, Json.isNull_eq_true_iff]

theorem namedEntry?_eq (item : Json) :
    namedEntry? item = (itemName? item).map fun name => (name, item.fields?.getD []) := by
  unfold namedEntry? itemName? Json.field?
  cases item.fields? with
  | none => rfl
  | some fields =>
    simp only [Option.bind_eq_bind, Option.bind_some, Option.getD_some]
    cases KeyedList.lookup "id" fields with
    | none => rfl
    | some value =>
      simp only [Option.bind_some]
      cases value.text? <;> rfl

theorem itemName?_itemOf (name : String) (entry : Json) :
    itemName? (itemOf name entry) = some name := by
  cases entry with
  | object fields =>
    have hlookup : KeyedList.lookup "id" (KeyedList.insert "id" (.string name) fields) =
        some (.string name) := by
      rw [KeyedList.lookup_insert, if_pos rfl]
    simp [itemName?, itemOf, Json.field?, Json.fields?, hlookup, Json.text?]
  | _ => rfl

/-- Writing an entry as an item changes no other field than that for names. -/
theorem field?_itemOf {key : String} (h : key ≠ "id") (name : String) (entry : Json) :
    (itemOf name entry).field? key = entry.field? key := by
  cases entry with
  | object fields =>
    unfold itemOf Json.field? Json.fields?
    rw [Option.bind_some, Option.bind_some, KeyedList.lookup_insert, if_neg h]
  | _ => simp [itemOf, Json.field?, Json.fields?, KeyedList.lookup, h]

/-- The target of an entry is that of the item. -/
theorem targetOfItem?_itemOf (name : String) (entry : Json) :
    targetOfItem? serverName broker (itemOf name entry) =
      some (targetOf serverName broker name entry) := by
  have hmark : (itemOf name entry).field? "disabled" = entry.field? "disabled" :=
    field?_itemOf (by decide) name entry
  unfold targetOfItem? targetOf
  rw [itemName?_itemOf, Option.map_some, isDisabled_fields, isDisabled_fields, hmark]

/-! ## Targets -/

/-- Every entry of an object is a target. -/
theorem targets_object (fields : List (String × Json)) :
    targets (.object fields) serverName broker =
      fields.map fun field => targetOf serverName broker field.1 field.2 := by
  unfold targets entries
  rw [List.map_map]
  rfl

/-- Every item of an array that has a name is a target. -/
theorem targets_array (items : List Json) :
    targets (.array items) serverName broker =
      items.filterMap (targetOfItem? serverName broker) := by
  unfold targets entries
  rw [List.map_filterMap]
  refine List.filterMap_congr fun item _ => ?_
  rw [namedEntry?_eq, Option.map_map]
  rfl

/-- Entries may be written as items. -/
theorem targets_itemOf (fields : List (String × Json)) :
    targets (.array (fields.map fun field => itemOf field.1 field.2)) serverName broker =
      targets (.object fields) serverName broker := by
  rw [targets_array, targets_object, List.filterMap_map, ← List.filterMap_eq_map]
  exact List.filterMap_congr fun field _ =>
    targetOfItem?_itemOf serverName broker field.1 field.2

/-- Each entry of an object is one target, in the order of the entries. -/
theorem forall₂_targets_object (fields : List (String × Json)) :
    List.Forall₂ (fun field => IsTargetOf serverName broker field.1 field.2) fields
      (targets (.object fields) serverName broker) := by
  rw [targets_object, List.forall₂_map_right_iff, List.forall₂_same]
  exact fun field _ => isTargetOf_targetOf serverName broker field.1 field.2

/-- Each key is the name of one target, in the order of the keys. -/
theorem map_name_targets_object (fields : List (String × Json)) :
    (targets (.object fields) serverName broker).map Target.name = fields.map Prod.fst := by
  rw [targets_object, List.map_map]
  rfl

/-- Each item with a name is one target, in the order of the items. -/
theorem forall₂_targets_array (items : List Json) :
    List.Forall₂
      (fun item target => ∃ name, itemName? item = some name ∧
        IsTargetOf serverName broker name item target)
      (items.filter fun item => (itemName? item).isSome)
      (targets (.array items) serverName broker) := by
  rw [targets_array]
  induction items with
  | nil => exact .nil
  | cons item items ih =>
    cases hname : itemName? item with
    | none =>
      -- The item is in neither list.
      have hskip : targetOfItem? serverName broker item = none := by
        rw [targetOfItem?, hname, Option.map_none]
      rw [List.filter_cons_of_neg (by simp [hname]), List.filterMap_cons_none hskip]
      exact ih
    | some name =>
      have htake : targetOfItem? serverName broker item =
          some (targetOf serverName broker name item) := by
        rw [targetOfItem?, hname, Option.map_some]
      rw [List.filter_cons_of_pos (by simp [hname]), List.filterMap_cons_some htake]
      exact .cons ⟨name, hname, isTargetOf_targetOf serverName broker name item⟩ ih

/-- Items without a name may be left out. -/
theorem targets_filter (items : List Json) :
    targets (.array (items.filter fun item => (itemName? item).isSome)) serverName broker =
      targets (.array items) serverName broker := by
  rw [targets_array, targets_array, List.filterMap_filter]
  refine List.filterMap_congr fun item _ => ?_
  unfold targetOfItem?
  cases itemName? item <;> rfl

/-- Arrays may be put together. -/
theorem targets_flatten (parts : List (List Json)) :
    targets (.array parts.flatten) serverName broker =
      parts.flatMap fun items => targets (.array items) serverName broker := by
  induction parts with
  | nil => rfl
  | cons items parts ih => rw [List.flatten_cons, targets_append, ih, List.flatMap_cons]

/-- The two shapes describe the same targets. An object has one target for each key, in the order
    of the keys, and an array of its entries as items has the same targets. An array has one
    target for each item with a name, in the order of the items; the other items may be left out,
    and arrays that are put together have their targets put together. -/
theorem shapes_list_alike (serverName : String) (broker : Nat) :
    (∀ fields : List (String × Json), KeyedList.Ascending fields →
      targets (.object fields) serverName broker =
          targets (.array (fields.map fun field => itemOf field.1 field.2)) serverName broker ∧
        List.Forall₂ (fun field => IsTargetOf serverName broker field.1 field.2) fields
          (targets (.object fields) serverName broker) ∧
        ((targets (.object fields) serverName broker).map Target.name).Nodup) ∧
    (∀ items : List Json,
      targets (.array (items.filter fun item => (itemName? item).isSome)) serverName broker =
          targets (.array items) serverName broker ∧
        List.Forall₂
          (fun item target => ∃ name, itemName? item = some name ∧
            IsTargetOf serverName broker name item target)
          (items.filter fun item => (itemName? item).isSome)
          (targets (.array items) serverName broker)) ∧
    ∀ parts : List (List Json),
      targets (.array parts.flatten) serverName broker =
        parts.flatMap fun items => targets (.array items) serverName broker := by
  refine ⟨fun fields hfields => ⟨?_, ?_, ?_⟩, fun items => ⟨?_, ?_⟩, ?_⟩
  · exact (targets_itemOf serverName broker fields).symm
  · exact forall₂_targets_object serverName broker fields
  · rw [map_name_targets_object]
    exact KeyedList.nodup_keys hfields
  · exact targets_filter serverName broker items
  · exact forall₂_targets_array serverName broker items
  · exact targets_flatten serverName broker

/-- An entry with the name of another one and an entry whose mark is `null`, and items without a
    name in front of them. -/
theorem shapes_list_alike_strays :
    let fields : List (String × Json) :=
      [("nuc2", .object [("disabled", .string "broken"), ("id", .string "qemu1")]),
        ("qemu1", .object [("disabled", .null)]), ("qemu2", .object [])]
    let strays : List Json := [.string "nuc1", .object [("id", .null)]]
    let items := fields.map fun field => itemOf field.1 field.2
    KeyedList.Ascending fields ∧
      targets (.array (strays ++ items)) "org1" 2 =
        [⟨"nuc2", "org1/nuc2", 2, true⟩, ⟨"qemu1", "org1/qemu1", 2, false⟩,
          ⟨"qemu2", "org1/qemu2", 2, false⟩] := by
  intro fields strays items
  have hfields : KeyedList.Ascending fields := by
    unfold KeyedList.Ascending
    decide
  obtain ⟨hobject, harray, -⟩ := shapes_list_alike "org1" 2
  have hnamed : (strays ++ items).filter (fun item => (itemName? item).isSome) = items := rfl
  refine ⟨hfields, ?_⟩
  calc targets (.array (strays ++ items)) "org1" 2
      = targets (.array items) "org1" 2 := by rw [← (harray (strays ++ items)).1, hnamed]
    _ = targets (.object fields) "org1" 2 := (hobject fields hfields).1.symm
    _ = _ := by decide

end Inventory

end BrokerClient
