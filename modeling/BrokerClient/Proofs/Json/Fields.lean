import BrokerClient.Json.Overlay
import BrokerClient.Json.Parser
import BrokerClient.Proofs.Control

/-!
# Fields of Documents

The fields of an object are in ascending order of their keys, each key once. Objects that
are read from texts are made that way, whatever order the text has and however often it
writes a key.

More generally, what is read is made of leaves, of arrays of items and of objects of fields. A
property that passes up from the parts to the whole holds of every document that is read.

## Main definitions

* `Json.IsSorted`: The fields of a document are in order, if it is an object.
* `Json.isLeaf`: Documents that are no arrays and no objects.
* `Json.PassesUp`: Properties that pass from the parts of documents to the documents.

## Theorems

* `Json.isSorted_ofFields`: An object that is made of fields has them in order.
* `Json.PassesUp.of_parse`: What passes up to documents holds of those that are read.
* `Json.isSorted_of_parse`: A document that is read from a text has them in order.
* `Json.overlay_cases`: What one document over another one is.
* `Json.overlayFields_cons`: What one field over others does.
* `Json.mem_keys_overlayFields`: One object over another one has the fields of both.
* `Json.IsSorted.overlay`: One document over another one has its fields in order.
-/

namespace BrokerClient

namespace Json

/-- The fields of a document are in order, if it is an object. -/
def IsSorted (document : Json) : Prop :=
  ∀ fields, document = .object fields → KeyedList.Ascending fields

theorem isSorted_ofFields (fields : List (String × Json)) : (ofFields fields).IsSorted := by
  intro fields' h
  obtain rfl : KeyedList.ofList fields = fields' := Json.object.inj h
  exact KeyedList.ascending_ofList fields

theorem isSorted_of_fields?_eq_none {document : Json} (h : document.fields? = none) :
    document.IsSorted := by
  rintro fields rfl
  cases h

theorem eq_object_of_fields? {document : Json} {fields : List (String × Json)}
    (h : document.fields? = some fields) : document = .object fields := by
  cases document with
  | object fields' => exact congrArg Json.object (Option.some.inj h)
  | _ => cases h

/-! ## Reading -/

/-- Whether a document is no array and no object. -/
def isLeaf : Json → Bool
  | array _ | object _ => false
  | _ => true

/-- A property that leaves have, arrays whose items have it, and objects that are made of fields
    whose values have it. -/
structure PassesUp (P : Json → Prop) : Prop where
  leaf : ∀ document, document.isLeaf = true → P document
  array : ∀ items, (∀ item ∈ items, P item) → P (.array items)
  object : ∀ fields, (∀ field ∈ fields, P field.2) → P (ofFields fields)

theorem length_le_of_skipBlanks {s r : List UInt8} (h : skipBlanks s = r) :
    r.length ≤ s.length := h ▸ length_skipBlanks_le s

section

variable {P : Json → Prop} {item : (s : List UInt8) → Except Flaw (Taken Json s)}

variable (hitem : ∀ s t, item s = .ok t → P t.value)

include hitem

/-- What holds of all items that are read holds of the items of an array. -/
theorem forall_of_readItems {s : List UInt8} {t : Taken (List Json) s}
    (h : readItems item s = .ok t) : ∀ v ∈ t.value, P v := by
  rw [readItems] at h
  split at h
  · cases h
  next b r hs =>
  split at h
  · rw [← Except.ok.inj h]
    exact List.forall_mem_nil _
  split at h
  · split at h
    · cases h
    next c r₁ hr =>
    split at h
    · cases h
    rcases exists_of_bind_eq_ok h with ⟨first, hfirst, h⟩
    rcases exists_of_bind_eq_ok h with ⟨others, hothers, h⟩
    have hlt : first.rest.length < s.length := by
      have h₁ := length_le_of_skipBlanks hs
      have h₂ := length_le_of_skipBlanks hr
      have h₃ := first.shorter
      rw [List.length_cons] at h₁
      omega
    rw [← Except.ok.inj h]
    exact List.forall_mem_cons.mpr ⟨hitem _ _ hfirst, forall_of_readItems hothers⟩
  · cases h
termination_by s.length

theorem of_readField {s : List UInt8} {t : Taken (String × Json) s}
    (h : readField item s = .ok t) : P t.value.2 := by
  unfold readField at h
  split at h
  · cases h
  split at h
  · cases h
  rcases exists_of_bind_eq_ok h with ⟨key, -, h⟩
  split at h
  · cases h
  split at h
  · cases h
  rcases exists_of_bind_eq_ok h with ⟨value, hvalue, h⟩
  rw [← Except.ok.inj h]
  exact hitem _ _ hvalue

theorem forall_of_readFields {s : List UInt8} {t : Taken (List (String × Json)) s}
    (h : readFields item s = .ok t) : ∀ field ∈ t.value, P field.2 := by
  rw [readFields] at h
  split at h
  · cases h
  next b r hs =>
  split at h
  · rw [← Except.ok.inj h]
    exact List.forall_mem_nil _
  split at h
  · split at h
    · cases h
    next c r₁ hr =>
    split at h
    · cases h
    rcases exists_of_bind_eq_ok h with ⟨first, hfirst, h⟩
    rcases exists_of_bind_eq_ok h with ⟨others, hothers, h⟩
    have hlt : first.rest.length < s.length := by
      have h₁ := length_le_of_skipBlanks hs
      have h₂ := length_le_of_skipBlanks hr
      have h₃ := first.shorter
      rw [List.length_cons] at h₁
      omega
    rw [← Except.ok.inj h]
    exact List.forall_mem_cons.mpr ⟨of_readField hitem hfirst, forall_of_readFields hothers⟩
  · cases h
termination_by s.length

theorem forall_of_readAllFields {s : List UInt8} {t : Taken (List (String × Json)) s}
    (h : readAllFields item s = .ok t) : ∀ field ∈ t.value, P field.2 := by
  unfold readAllFields at h
  split at h
  · cases h
  split at h
  · rw [← Except.ok.inj h]
    exact List.forall_mem_nil _
  rcases exists_of_bind_eq_ok h with ⟨first, hfirst, h⟩
  rcases exists_of_bind_eq_ok h with ⟨others, hothers, h⟩
  rw [← Except.ok.inj h]
  exact List.forall_mem_cons.mpr ⟨of_readField hitem hfirst, forall_of_readFields hitem hothers⟩

end

namespace PassesUp

variable {P : Json → Prop} (hP : PassesUp P)

include hP

/-- Words, numbers and texts are leaves. -/
theorem of_takeFrom {s rest : List UInt8} {value : Json} {t : Taken Json s}
    (hvalue : value.isLeaf = true) (h : takeFrom s value rest = .ok t) : P t.value := by
  unfold takeFrom at h
  split at h
  · rw [← Except.ok.inj h]
    exact hP.leaf value hvalue
  · cases h

theorem of_readArray {item : (s : List UInt8) → Except Flaw (Taken Json s)}
    (hitem : ∀ s t, item s = .ok t → P t.value) {s : List UInt8} {t : Taken Json s}
    (h : readArray item s = .ok t) : P t.value := by
  unfold readArray at h
  split at h
  · cases h
  split at h
  · rw [← Except.ok.inj h]
    exact hP.array [] (List.forall_mem_nil _)
  rcases exists_of_bind_eq_ok h with ⟨first, hfirst, h⟩
  rcases exists_of_bind_eq_ok h with ⟨others, hothers, h⟩
  rw [← Except.ok.inj h]
  exact hP.array _ (List.forall_mem_cons.mpr
    ⟨hitem _ _ hfirst, forall_of_readItems hitem hothers⟩)

theorem of_readObject {item : (s : List UInt8) → Except Flaw (Taken Json s)}
    (hitem : ∀ s t, item s = .ok t → P t.value) {s : List UInt8} {t : Taken Json s}
    (h : readObject item s = .ok t) : P t.value := by
  rcases exists_of_bind_eq_ok h with ⟨fields, hfields, h⟩
  rw [← Except.ok.inj h]
  exact hP.object fields.value (forall_of_readAllFields hitem hfields)

theorem of_readWith {array object : (s : List UInt8) → Except Flaw (Taken Json s)}
    {b : UInt8} {r : List UInt8} (harray : ∀ t, array r = .ok t → P t.value)
    (hobject : ∀ t, object r = .ok t → P t.value) {t : Taken Json (b :: r)}
    (h : readWith array object b r = .ok t) : P t.value := by
  unfold readWith at h
  -- The three words.
  split at h
  · rcases exists_of_bind_eq_ok h with ⟨rest, -, h⟩
    exact hP.of_takeFrom rfl h
  split at h
  · rcases exists_of_bind_eq_ok h with ⟨rest, -, h⟩
    exact hP.of_takeFrom rfl h
  split at h
  · rcases exists_of_bind_eq_ok h with ⟨rest, -, h⟩
    exact hP.of_takeFrom rfl h
  -- A number, with a sign or without.
  split at h
  · rcases exists_of_bind_eq_ok h with ⟨n, -, h⟩
    exact hP.of_takeFrom rfl h
  split at h
  · rcases exists_of_bind_eq_ok h with ⟨n, -, h⟩
    exact hP.of_takeFrom rfl h
  -- A text, an array, an object.
  split at h
  · rcases exists_of_bind_eq_ok h with ⟨text, -, h⟩
    rw [← Except.ok.inj h]
    exact hP.leaf _ rfl
  split at h
  · rcases exists_of_bind_eq_ok h with ⟨found, hfound, h⟩
    rw [← Except.ok.inj h]
    exact harray found hfound
  split at h
  · rcases exists_of_bind_eq_ok h with ⟨found, hfound, h⟩
    rw [← Except.ok.inj h]
    exact hobject found hfound
  · cases h

theorem of_read {depth : Nat} {s : List UInt8} {t : Taken Json s} (h : read depth s = .ok t) :
    P t.value := by
  induction depth generalizing s with
  | zero =>
    unfold read at h
    split at h
    · cases h
    · -- No array and no object can be read.
      rcases exists_of_bind_eq_ok h with ⟨found, hfound, h⟩
      rw [← Except.ok.inj h]
      exact hP.of_readWith (fun _ ht => by cases ht) (fun _ ht => by cases ht) hfound
  | succ depth ih =>
    unfold read at h
    split at h
    · cases h
    · rcases exists_of_bind_eq_ok h with ⟨found, hfound, h⟩
      rw [← Except.ok.inj h]
      exact hP.of_readWith (fun _ => hP.of_readArray fun _ _ => ih)
        (fun _ => hP.of_readObject fun _ _ => ih) hfound

/-- A document that is read from a text has the property. -/
theorem of_parse {text : List UInt8} {document : Json} (h : parse text = .ok document) :
    P document := by
  rcases exists_of_bind_eq_ok h with ⟨found, hfound, h⟩
  split at h
  · rw [← Except.ok.inj h]
    exact hP.of_read hfound
  · cases h

end PassesUp

theorem fields?_of_isLeaf {document : Json} (h : document.isLeaf = true) :
    document.fields? = none := by
  cases document with
  | object => cases h
  | _ => rfl

/-- A document that is read from a text has them in order. -/
theorem isSorted_of_parse {text : List UInt8} {document : Json} (h : parse text = .ok document) :
    document.IsSorted :=
  PassesUp.of_parse
    { leaf := fun _ hleaf => isSorted_of_fields?_eq_none (fields?_of_isLeaf hleaf)
      array := fun _ _ => isSorted_of_fields?_eq_none rfl
      object := fun fields _ => isSorted_ofFields fields } h

/-! ## Overlays -/

theorem overlay_of_fields?_eq_none_left {upper : Json} (h : upper.fields? = none) (lower : Json) :
    overlay upper lower = upper := by
  cases upper with
  | object fields => cases h
  | _ => rw [overlay.eq_def]

theorem overlay_of_fields?_eq_none_right (upper : Json) {lower : Json} (h : lower.fields? = none) :
    overlay upper lower = upper := by
  cases upper with
  | object fields =>
    cases lower with
    | object below => cases h
    | _ => rw [overlay.eq_def]
  | _ => rw [overlay.eq_def]

theorem overlay_object (fields below : List (String × Json)) :
    overlay (.object fields) (.object below) = .object (overlayFields fields below) := by
  rw [overlay.eq_def]

/-- Only objects are put together. -/
theorem overlay_cases (upper lower : Json) :
    overlay upper lower = upper ∨ ∃ fields below, upper = .object fields ∧
      lower = .object below ∧ overlay upper lower = .object (overlayFields fields below) := by
  cases hfields : upper.fields? with
  | none => exact .inl (overlay_of_fields?_eq_none_left hfields lower)
  | some fields =>
    cases hbelow : lower.fields? with
    | none => exact .inl (overlay_of_fields?_eq_none_right upper hbelow)
    | some below =>
      obtain rfl := eq_object_of_fields? hfields
      obtain rfl := eq_object_of_fields? hbelow
      exact .inr ⟨fields, below, rfl, rfl, overlay_object fields below⟩

theorem overlayFields_cons (key : String) (value : Json) (others lower : List (String × Json)) :
    overlayFields ((key, value) :: others) lower = overlayFields others
      (KeyedList.insert key
        ((KeyedList.lookup key lower).elim value (overlay value)) lower) := by
  rw [overlayFields]
  cases KeyedList.lookup key lower <;> rfl

/-- All fields of the upper object are there. -/
theorem mem_keys_overlayFields {key : String} {upper lower : List (String × Json)} :
    key ∈ (overlayFields upper lower).map Prod.fst ↔
      key ∈ upper.map Prod.fst ∨ key ∈ lower.map Prod.fst := by
  induction upper generalizing lower with
  | nil => simp [overlayFields]
  | cons field others ih =>
    obtain ⟨k, v⟩ := field
    rw [overlayFields_cons, ih, KeyedList.mem_keys_insert, List.map_cons, List.mem_cons]
    exact or_left_comm.trans or_assoc.symm

theorem ascending_overlayFields {lower : List (String × Json)} (h : KeyedList.Ascending lower)
    (upper : List (String × Json)) : KeyedList.Ascending (overlayFields upper lower) := by
  induction upper generalizing lower with
  | nil =>
    rw [overlayFields]
    exact h
  | cons field others ih =>
    obtain ⟨k, v⟩ := field
    rw [overlayFields_cons]
    exact ih (KeyedList.ascending_insert h k _)

theorem IsSorted.overlay {upper lower : Json} (hupper : upper.IsSorted) (hlower : lower.IsSorted) :
    (Json.overlay upper lower).IsSorted := by
  rcases overlay_cases upper lower with hkept | ⟨fields, below, rfl, rfl, hmerged⟩
  · rw [hkept]
    exact hupper
  · rw [hmerged]
    intro merged heq
    rw [← Json.object.inj heq]
    exact ascending_overlayFields (hlower below rfl) fields

end Json

end BrokerClient
