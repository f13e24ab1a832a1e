import BrokerClient.Json.Dotted
import BrokerClient.Proofs.Json.Fields
import BrokerClient.Proofs.KeyedLists
import BrokerClient.Proofs.Text.ByteOrder

/-!
# Ways into Documents

A step into a document is a key, where it is an object, or an index, where it is an array. A
way is a list of steps. The entries of a document are its leaves with the ways to them, and
these are all ways that lead to a leaf. They come in the order of their steps: keys by their
bytes and indices as numbers, the first steps first. So no entry comes twice.

Nothing here is about the words that steps are written with: an index and a key may be written
alike. The leaves of a listing are the entries with their steps written out.

## Main definitions

* `Json.Step`, `Json.Step.Before`: A step and the order of the steps.
* `Json.at?`, `Json.follow?`: Where a step and where a way lead.
* `Json.Ordered`: The fields of every object in a document are in order.
* `Json.children`: What a document has one step below it.
* `Json.entries`: The leaves of a document with the ways to them.

## Theorems

* `Json.at?_eq_some_iff`: The steps of a document lead to its children.
* `Json.nodeInduction`: Induction on what is below a document.
* `Json.ordered_of_parse`: A document that is read from a text is in order.
* `Json.mem_entries_iff`: The entries are the ways to leaves.
* `Json.pairwise_entries`, `Json.nodup_ways`: They come in order, each once.
* `Json.leaves_eq`: The leaves of a listing are the entries.
-/

namespace BrokerClient

namespace Json

/-! ## Steps and ways -/

/-- A step into a document. -/
inductive Step where
  | key (name : String)
  | index (n : Nat)
  deriving DecidableEq, Repr

namespace Step

/-- A step as it is written. -/
def text : Step → String
  | key name => name
  | index n => toString n

/-- Keys are in the order of their bytes, indices in that of the numbers. -/
def Before : Step → Step → Prop
  | key name, key name' => Utf8.encode name.toList < Utf8.encode name'.toList
  | index n, index n' => n < n'
  | _, _ => False

end Step

/-- What a step leads to. -/
def at? : Json → Step → Option Json
  | object fields, .key name => KeyedList.lookup name fields
  | array items, .index n => items[n]?
  | _, _ => none

/-- What a way leads to. -/
def follow? (document : Json) : List Step → Option Json
  | [] => some document
  | step :: way => (document.at? step).bind fun child => child.follow? way

/-- The fields of every object in a document are in order. -/
def Ordered (document : Json) : Prop :=
  ∀ way fields, document.follow? way = some (.object fields) → KeyedList.Ascending fields

/-- What a document has one step below it. -/
def children : Json → List (Step × Json)
  | object fields => fields.map fun field => (.key field.1, field.2)
  | array items => items.zipIdx.map fun item => (.index item.2, item.1)
  | _ => []

/-- An entry seen from one step further up. -/
def entryBelow (step : Step) (entry : List Step × Json) : List Step × Json :=
  (step :: entry.1, entry.2)

mutual

/-- The leaves of a document with the ways to them, from left to right. -/
def entries : Json → List (List Step × Json)
  | .object fields => entriesOfFields fields
  | .array items => entriesOfItems 0 items
  | leaf => [([], leaf)]

/-- The entries of the items of an array from an index on. -/
def entriesOfItems (index : Nat) : List Json → List (List Step × Json)
  | [] => []
  | item :: items =>
    (entries item).map (entryBelow (.index index)) ++ entriesOfItems (index + 1) items

/-- The entries of the fields of an object. -/
def entriesOfFields : List (String × Json) → List (List Step × Json)
  | [] => []
  | (key, value) :: fields =>
    (entries value).map (entryBelow (.key key)) ++ entriesOfFields fields

end

variable {document child : Json} {step : Step}

/-! ## One step -/

theorem children_of_isLeaf (h : document.isLeaf = true) : document.children = [] := by
  cases document with
  | array | object => cases h
  | _ => rfl

/-- A step leads to a child. -/
theorem mem_children_of_at? (h : document.at? step = some child) :
    (step, child) ∈ document.children := by
  cases document with
  | object fields =>
    cases step with
    | key name =>
      exact List.mem_map.mpr ⟨(name, child), KeyedList.mem_of_lookup h, rfl⟩
    | index n => cases h
  | array items =>
    cases step with
    | key name => cases h
    | index n => exact List.mem_map.mpr ⟨(child, n), List.mem_zipIdx_iff_getElem?.mpr h, rfl⟩
  | _ => cases h

/-- The steps of a document lead to its children. -/
theorem at?_eq_some_iff (h : document.Ordered) :
    document.at? step = some child ↔ (step, child) ∈ document.children := by
  refine ⟨mem_children_of_at?, fun hmem => ?_⟩
  cases document with
  | object fields =>
    rcases List.mem_map.mp hmem with ⟨⟨name, value⟩, hfield, heq⟩
    cases heq
    exact (KeyedList.lookup_eq_some_iff (h [] fields rfl)).mpr hfield
  | array items =>
    rcases List.mem_map.mp hmem with ⟨⟨item, n⟩, hitem, heq⟩
    cases heq
    exact List.mem_zipIdx_iff_getElem?.mp hitem
  | _ => cases hmem

/-- The children of a document come in the order of the steps. -/
theorem pairwise_children (h : document.Ordered) :
    document.children.Pairwise fun a b => a.1.Before b.1 := by
  cases document with
  | object fields =>
    refine List.pairwise_map.mpr ((List.pairwise_map.mp (h [] fields rfl)).imp ?_)
    exact fun hlt => Utf8.encode_lt_encode hlt
  | array items =>
    have hindices : (items.zipIdx.map Prod.snd).Pairwise (· < ·) := by
      rw [List.zipIdx_map_snd]
      exact List.pairwise_lt_range'
    exact List.pairwise_map.mpr ((List.pairwise_map.mp hindices).imp id)
  | _ => exact .nil

theorem sizeOf_lt_of_mem_children (h : (step, child) ∈ document.children) :
    sizeOf child < sizeOf document := by
  cases document with
  | object fields =>
    rcases List.mem_map.mp h with ⟨⟨name, value⟩, hfield, heq⟩
    cases heq
    have hlt := List.sizeOf_lt_of_mem hfield
    simp only [Prod.mk.sizeOf_spec, object.sizeOf_spec] at hlt ⊢
    omega
  | array items =>
    rcases List.mem_map.mp h with ⟨⟨item, n⟩, hitem, heq⟩
    cases heq
    have hlt := List.sizeOf_lt_of_mem (List.fst_mem_of_mem_zipIdx hitem)
    simp only [array.sizeOf_spec] at hlt ⊢
    omega
  | _ => cases h

/-- What holds of leaves, and of a document if it holds of all its children, holds of all
    documents. -/
theorem nodeInduction {P : Json → Prop} (leaf : ∀ document, document.isLeaf = true → P document)
    (node : ∀ document, document.isLeaf = false →
      (∀ step child, (step, child) ∈ document.children → P child) → P document)
    (document : Json) : P document := by
  cases hleaf : document.isLeaf with
  | true => exact leaf document hleaf
  | false =>
    refine node document hleaf fun step child hchild => ?_
    -- A child is smaller than the document, although it stands in a list of pairs.
    have := sizeOf_lt_of_mem_children hchild
    exact nodeInduction leaf node child
termination_by sizeOf document

/-! ## Ordered documents -/

theorem Ordered.below (h : document.Ordered) (hchild : (step, child) ∈ document.children) :
    child.Ordered := by
  intro way fields hway
  refine h (step :: way) fields ?_
  rw [follow?, (at?_eq_some_iff h).mpr hchild]
  exact hway

/-- A document is in order if its own fields and all its children are. -/
theorem ordered_of_children (hfields : ∀ fields, document = .object fields →
    KeyedList.Ascending fields) (hchildren : ∀ c ∈ document.children, c.2.Ordered) :
    document.Ordered := by
  intro way fields hway
  cases way with
  | nil => exact hfields fields (Option.some.inj hway)
  | cons step way =>
    rcases Option.bind_eq_some_iff.mp hway with ⟨child, hchild, hway⟩
    exact hchildren _ (mem_children_of_at? hchild) way fields hway

theorem ordered_of_isLeaf (h : document.isLeaf = true) : document.Ordered := by
  refine ordered_of_children ?_ ?_
  · rintro fields rfl
    cases h
  · rw [children_of_isLeaf h]
    exact List.forall_mem_nil _

theorem ordered_array {items : List Json} (h : ∀ item ∈ items, item.Ordered) :
    (array items).Ordered := by
  refine ordered_of_children (fun _ heq => by cases heq) fun c hchild => ?_
  rcases List.mem_map.mp hchild with ⟨item, hitem, rfl⟩
  exact h item.1 (List.fst_mem_of_mem_zipIdx hitem)

theorem ordered_object {fields : List (String × Json)} (hfields : KeyedList.Ascending fields)
    (h : ∀ field ∈ fields, field.2.Ordered) : (object fields).Ordered := by
  refine ordered_of_children (fun fields' heq => ?_) fun c hchild => ?_
  · rw [← object.inj heq]
    exact hfields
  · rcases List.mem_map.mp hchild with ⟨field, hfield, rfl⟩
    exact h field hfield

theorem ordered_ofFields {fields : List (String × Json)} (h : ∀ field ∈ fields, field.2.Ordered) :
    (ofFields fields).Ordered :=
  ordered_object (KeyedList.ascending_ofList fields) fun field hfield =>
    h field (KeyedList.mem_of_mem_ofList hfield)

/-- A document that is read from a text is in order. -/
theorem ordered_of_parse {text : List UInt8} (h : parse text = .ok document) : document.Ordered :=
  PassesUp.of_parse
    { leaf := fun _ => ordered_of_isLeaf
      array := fun _ => ordered_array
      object := fun _ => ordered_ofFields } h

/-! ## Entries -/

theorem entriesOfItems_eq (index : Nat) (items : List Json) :
    entriesOfItems index items = (items.zipIdx index).flatMap fun item =>
      item.1.entries.map (entryBelow (.index item.2)) := by
  induction items generalizing index with
  | nil => rfl
  | cons item items ih => rw [entriesOfItems, ih, List.zipIdx_cons, List.flatMap_cons]

theorem entriesOfFields_eq (fields : List (String × Json)) :
    entriesOfFields fields = fields.flatMap fun field =>
      field.2.entries.map (entryBelow (.key field.1)) := by
  induction fields with
  | nil => rfl
  | cons field fields ih => rw [entriesOfFields, ih, List.flatMap_cons]

theorem entries_of_isLeaf (h : document.isLeaf = true) : document.entries = [([], document)] := by
  cases document with
  | array | object => cases h
  | _ => rfl

/-- The entries of a document are those of its children. -/
theorem entries_of_node (h : document.isLeaf = false) :
    document.entries =
      document.children.flatMap fun c => c.2.entries.map (entryBelow c.1) := by
  cases document with
  | array items => rw [entries, entriesOfItems_eq, children, List.flatMap_map]
  | object fields => rw [entries, entriesOfFields_eq, children, List.flatMap_map]
  | _ => cases h

/-- The entries of a document are the ways that lead to a leaf. -/
theorem mem_entries_iff (h : document.Ordered) {way : List Step} {value : Json} :
    (way, value) ∈ document.entries ↔
      document.follow? way = some value ∧ value.isLeaf = true := by
  induction document using nodeInduction generalizing way with
  | leaf document hleaf =>
    rw [entries_of_isLeaf hleaf, List.mem_singleton]
    constructor
    · intro heq
      cases heq
      exact ⟨rfl, hleaf⟩
    · rintro ⟨hway, -⟩
      cases way with
      | nil => rw [Option.some.inj hway]
      | cons step way =>
        -- No step leads out of a leaf.
        rcases Option.bind_eq_some_iff.mp hway with ⟨child, hchild, -⟩
        have hmem := mem_children_of_at? hchild
        rw [children_of_isLeaf hleaf] at hmem
        cases hmem
  | node document hnode ih =>
    rw [entries_of_node hnode, List.mem_flatMap]
    constructor
    · rintro ⟨⟨step, child⟩, hchild, hentry⟩
      rcases List.mem_map.mp hentry with ⟨⟨rest, leaf⟩, hrest, heq⟩
      cases heq
      rcases (ih step child hchild (h.below hchild)).mp hrest with ⟨hway, hleaf⟩
      refine ⟨?_, hleaf⟩
      rw [follow?, (at?_eq_some_iff h).mpr hchild]
      exact hway
    · rintro ⟨hway, hleaf⟩
      cases way with
      | nil =>
        -- The way without steps leads to the document, which is no leaf.
        rw [← Option.some.inj hway, hnode] at hleaf
        cases hleaf
      | cons step rest =>
        rcases Option.bind_eq_some_iff.mp hway with ⟨child, hat, hrest⟩
        have hchild := mem_children_of_at? hat
        refine ⟨(step, child), hchild, List.mem_map.mpr ⟨(rest, value), ?_, rfl⟩⟩
        exact (ih step child hchild (h.below hchild)).mpr ⟨hrest, hleaf⟩

/-- The entries of a document come in the order of their ways. -/
theorem pairwise_entries (h : document.Ordered) :
    document.entries.Pairwise fun a b => List.Lex Step.Before a.1 b.1 := by
  induction document using nodeInduction with
  | leaf document hleaf =>
    rw [entries_of_isLeaf hleaf]
    exact List.pairwise_singleton _ _
  | node document hnode ih =>
    rw [entries_of_node hnode, List.pairwise_flatMap]
    constructor
    · rintro ⟨step, child⟩ hchild
      exact List.pairwise_map.mpr ((ih step child hchild (h.below hchild)).imp List.Lex.cons)
    · -- Entries below different children differ in the first step.
      refine (pairwise_children h).imp fun hbefore a ha b hb => ?_
      rcases List.mem_map.mp ha with ⟨_, -, rfl⟩
      rcases List.mem_map.mp hb with ⟨_, -, rfl⟩
      exact .rel hbefore

theorem Step.not_before_self (step : Step) : ¬step.Before step := by
  cases step with
  | key name => exact List.lt_irrefl _
  | index n => exact Nat.lt_irrefl n

theorem not_lex_self (way : List Step) : ¬List.Lex Step.Before way way := by
  induction way with
  | nil => exact nofun
  | cons step way ih =>
    intro h
    cases h with
    | rel hbefore => exact step.not_before_self hbefore
    | cons hbehind => exact ih hbehind

/-- No way leads to two entries. -/
theorem nodup_ways (h : document.Ordered) : (document.entries.map Prod.fst).Nodup := by
  refine List.pairwise_map.mpr ((pairwise_entries h).imp fun {a b} hlex heq => ?_)
  rw [heq] at hlex
  exact not_lex_self b.1 hlex

/-! ## Leaves -/

theorem leavesOfItems_eq (index : Nat) (items : List Json) :
    leavesOfItems index items = (items.zipIdx index).flatMap fun item =>
      item.1.leaves.map (Leaf.below (toString item.2)) := by
  induction items generalizing index with
  | nil => rfl
  | cons item items ih => rw [leavesOfItems, ih, List.zipIdx_cons, List.flatMap_cons]

theorem leavesOfFields_eq (fields : List (String × Json)) :
    leavesOfFields fields = fields.flatMap fun field =>
      field.2.leaves.map (Leaf.below field.1) := by
  induction fields with
  | nil => rfl
  | cons field fields ih => rw [leavesOfFields, ih, List.flatMap_cons]

theorem leaves_of_isLeaf (h : document.isLeaf = true) :
    document.leaves = [⟨[], leafText? document⟩] := by
  cases document with
  | array | object => cases h
  | _ => rfl

theorem leaves_of_node (h : document.isLeaf = false) :
    document.leaves = document.children.flatMap fun c => c.2.leaves.map (Leaf.below c.1.text) := by
  cases document with
  | array items =>
    rw [leaves, leavesOfItems_eq, children, List.flatMap_map]
    rfl
  | object fields =>
    rw [leaves, leavesOfFields_eq, children, List.flatMap_map]
    rfl
  | _ => cases h

/-- An entry with its steps and its leaf written out. -/
def writtenEntry (entry : List Step × Json) : Leaf := ⟨entry.1.map Step.text, leafText? entry.2⟩

/-- The leaves of a document are its entries, written out. -/
theorem leaves_eq (document : Json) : document.leaves = document.entries.map writtenEntry := by
  induction document using nodeInduction with
  | leaf document hleaf =>
    rw [leaves_of_isLeaf hleaf, entries_of_isLeaf hleaf]
    rfl
  | node document hnode ih =>
    rw [leaves_of_node hnode, entries_of_node hnode, List.map_flatMap, List.flatMap_def,
      List.flatMap_def]
    refine congrArg List.flatten (List.map_congr_left fun c hchild => ?_)
    rw [ih c.1 c.2 hchild, List.map_map, List.map_map]
    rfl

end Json

end BrokerClient
