import BrokerClient.Proofs.Control
import BrokerClient.Proofs.Json.Ways
import BrokerClient.Proofs.Text.Lines

/-!
# What a Dotted Listing Lists

A dotted listing has one entry for each leaf of the document, in the order of the ways to the
leaves. The steps of the way stand in front of a colon, with dots between them, and the text of
the leaf behind it. Whether a path is empty tells the outside from the inside, which is right as
long as no empty key at the outside has anything below it; keys further down may be empty.

The leaves are read back from the listing if the keys have no dots, colons and line breaks and
the strings have no line breaks: an index has none of these, and a number has no line breaks. An
empty path stands for no steps, for there is no way that consists of an empty key.

## Main definitions

* `Json.Leaf.line`: The entry of a leaf.
* `Json.readListing?`: Reads leaves from a listing.
* `Json.IsPlain`: The keys and strings in a document do not look like parts of a listing.

## Theorems

* `Json.dotted_eq_of_outer`: The listing of a document has the entries of its leaves, if an
  empty key at the outside has nothing below it.
* `Json.dotted_eq`: So it does if there is no such key.
* `Json.readLeaf?_line`: A leaf is read back from its entry.
* `Json.dotted_lists_leaves`: The listing lists each leaf once, and they can be read back.
-/

namespace BrokerClient

namespace Json

/-- The entry of a leaf, without the line break at its end. -/
def Leaf.line (leaf : Leaf) : String :=
  String.intercalate "." leaf.steps ++ ":" ++ leaf.text.elim "" fun text => " " ++ text

/-- The steps of a path. -/
def readSteps (path : List Char) : List String :=
  if path.isEmpty then [] else (splitAll '.' path).map String.ofList

/-- Reads a leaf from its entry. The path ends at the first colon. -/
def readLeaf? (line : List Char) : Option Leaf :=
  let steps := readSteps (line.takeWhile (· ≠ ':'))
  match line.dropWhile (· ≠ ':') with
  | [':'] => some ⟨steps, none⟩
  | ':' :: ' ' :: text => some ⟨steps, some (String.ofList text)⟩
  | _ => none

/-- Reads leaves from a listing, one from each line. -/
def readListing? (listing : String) : Option (List Leaf) :=
  (lines? listing).bind fun lines => lines.mapM readLeaf?

/-- Whether a key has no dots, colons and line breaks. -/
def IsPlainKey (name : String) : Prop :=
  '.' ∉ name.toList ∧ ':' ∉ name.toList ∧ '\n' ∉ name.toList

/-- The keys in a document have no dots, colons and line breaks, and the strings have no line
    breaks. -/
structure IsPlain (document : Json) : Prop where
  keys : ∀ way value, document.follow? way = some value →
    ∀ name, .key name ∈ way → IsPlainKey name
  strings : ∀ way text, document.follow? way = some (.string text) → '\n' ∉ text.toList

variable {document child : Json} {step : Step}

/-! ## Writing -/

theorem dottedItems_eq (path : String) (index : Nat) (items : List Json) :
    dottedItems path index items = String.join ((items.zipIdx index).map fun item =>
      dottedBelow (extendPath path (toString item.2)) item.1) := by
  induction items generalizing index with
  | nil => rfl
  | cons item items ih =>
    rw [dottedItems, ih, List.zipIdx_cons, List.map_cons, String.join_cons]

theorem dottedFields_eq (path : String) (fields : List (String × Json)) :
    dottedFields path fields = String.join (fields.map fun field =>
      dottedBelow (extendPath path field.1) field.2) := by
  induction fields with
  | nil => rfl
  | cons field fields ih => rw [dottedFields, ih, List.map_cons, String.join_cons]

theorem dottedBelow_of_isLeaf (h : document.isLeaf = true) (path : String) :
    dottedBelow path document = leafLine path (leafText? document) := by
  cases document with
  | array | object => cases h
  | _ => rfl

/-- The listing of a document is that of its children, one after the other. -/
theorem dottedBelow_of_node (h : document.isLeaf = false) (path : String) :
    dottedBelow path document = String.join (document.children.map fun c =>
      dottedBelow (extendPath path c.1.text) c.2) := by
  cases document with
  | array items =>
    rw [dottedBelow, dottedItems_eq, children, List.map_map]
    rfl
  | object fields =>
    rw [dottedBelow, dottedFields_eq, children, List.map_map]
    rfl
  | _ => cases h

/-- The line of a leaf is its entry with a line break. -/
theorem leafLine_intercalate (steps : List String) (text : Option String) :
    leafLine (String.intercalate "." steps) text = endLines [Leaf.line ⟨steps, text⟩] := by
  rw [endLines_singleton]
  unfold leafLine Leaf.line
  cases text with
  | none =>
    simp only [Option.elim_none, String.append_empty, String.append_assoc]
    rfl
  | some text =>
    simp only [Option.elim_some, String.append_assoc]
    rfl

/-- Two steps from the outside are written like one step with a dot in it. -/
theorem line_below_below (leaf : Leaf) (path step : String) :
    (leaf.below (path ++ "." ++ step)).line = ((leaf.below step).below path).line := by
  unfold Leaf.line Leaf.below
  simp only
  rw [String.intercalate_cons_cons]
  cases leaf.steps with
  | nil => rw [String.intercalate_singleton, String.intercalate_singleton]
  | cons next steps =>
    rw [String.intercalate_cons_cons, String.intercalate_cons_cons]
    simp only [String.append_assoc]

theorem extendPath_of_ne {path : String} (h : path ≠ "") (step : String) :
    extendPath path step = path ++ "." ++ step :=
  if_neg fun hempty => h (String.isEmpty_iff.mp hempty)

/-- Below a path, the entries of the leaves have the path in front. -/
theorem dottedBelow_eq (document : Json) {path : String} (hpath : path ≠ "") :
    dottedBelow path document =
      endLines (document.leaves.map fun leaf => (leaf.below path).line) := by
  induction document using nodeInduction generalizing path with
  | leaf document hleaf =>
    rw [dottedBelow_of_isLeaf hleaf, leaves_of_isLeaf hleaf]
    exact leafLine_intercalate [path] (leafText? document)
  | node document hnode ih =>
    rw [dottedBelow_of_node hnode, leaves_of_node hnode, List.map_flatMap, endLines_flatMap]
    refine congrArg String.join (List.map_congr_left fun c hchild => ?_)
    -- A path that is not empty stays so with further steps, even with empty ones.
    have hbelow : path ++ "." ++ c.1.text ≠ "" := fun hempty =>
      hpath (String.append_eq_empty_iff.mp (String.append_eq_empty_iff.mp hempty).1).1
    rw [extendPath_of_ne hpath, ih c.1 c.2 hchild hbelow, List.map_map]
    exact congrArg endLines (List.map_congr_left fun leaf _ => line_below_below leaf path _)

/-- The listing of a document has the entries of its leaves, if no empty step at the outside has
    anything below it. -/
theorem dotted_eq_of_outer (h : ∀ c ∈ document.children, c.1.text = "" → c.2.isLeaf = true) :
    dotted document = endLines (document.leaves.map Leaf.line) := by
  unfold dotted
  cases hleaf : document.isLeaf with
  | true =>
    rw [dottedBelow_of_isLeaf hleaf, leaves_of_isLeaf hleaf]
    exact leafLine_intercalate [] (leafText? document)
  | false =>
    rw [dottedBelow_of_node hleaf, leaves_of_node hleaf, List.map_flatMap, endLines_flatMap]
    refine congrArg String.join (List.map_congr_left fun c hchild => ?_)
    -- The empty path is replaced by the first step.
    rw [show extendPath "" c.1.text = c.1.text from rfl]
    by_cases hstep : c.1.text = ""
    · have hbelow : c.2.isLeaf = true := h c hchild hstep
      rw [dottedBelow_of_isLeaf hbelow, leaves_of_isLeaf hbelow]
      exact leafLine_intercalate [c.1.text] (leafText? c.2)
    · rw [dottedBelow_eq c.2 hstep, List.map_map]
      rfl

/-- No step at the outside is empty. -/
theorem dotted_eq (h : ∀ c ∈ document.children, c.1.text ≠ "") :
    dotted document = endLines (document.leaves.map Leaf.line) :=
  dotted_eq_of_outer fun c hchild hstep => absurd hstep (h c hchild)

/-! ## Reading -/

theorem toList_line (leaf : Leaf) :
    leaf.line.toList = List.intercalate ['.'] (leaf.steps.map String.toList) ++ ':' ::
      leaf.text.elim [] fun text => ' ' :: text.toList := by
  unfold Leaf.line
  rw [String.toList_append, String.toList_append, String.toList_intercalate, List.append_assoc]
  cases leaf.text <;> simp

theorem notMem_intercalate {c : Char} (hc : c ≠ '.') {steps : List String}
    (h : ∀ step ∈ steps, c ∉ step.toList) :
    c ∉ List.intercalate ['.'] (steps.map String.toList) := by
  intro hmem
  refine forall_mem_intercalate (P := (· ≠ c)) ?_ ?_ c hmem rfl
  · exact List.forall_mem_singleton.mpr (Ne.symm hc)
  · rintro _ hpart a ha rfl
    rcases List.mem_map.mp hpart with ⟨step, hstep, rfl⟩
    exact h step hstep ha

/-- The path of no steps is empty, and so is that of an empty step alone. All others are read
    back. -/
theorem readSteps_intercalate {steps : List String} (hne : steps ≠ [""])
    (h : ∀ step ∈ steps, '.' ∉ step.toList) :
    readSteps (List.intercalate ['.'] (steps.map String.toList)) = steps := by
  cases steps with
  | nil => rfl
  | cons first steps =>
    have hfull : List.intercalate ['.'] ((first :: steps).map String.toList) ≠ [] := by
      cases steps with
      | nil =>
        intro hempty
        refine hne (congrArg (· :: []) (String.toList_inj.mp ?_))
        rwa [List.map_singleton, List.intercalate_singleton] at hempty
      | cons second steps =>
        rw [List.map_cons, List.map_cons, List.intercalate_cons_cons, List.append_assoc]
        exact List.append_ne_nil_of_right_ne_nil _ (List.cons_ne_nil _ _)
    have hparts : ∀ part ∈ (first :: steps).map String.toList, '.' ∉ part :=
      fun part hpart => by
        rcases List.mem_map.mp hpart with ⟨step, hstep, rfl⟩
        exact h step hstep
    have hsome : (first :: steps).map String.toList ≠ [] := List.cons_ne_nil _ _
    unfold readSteps
    rw [if_neg (mt List.isEmpty_iff.mp hfull), splitAll_intercalate hsome hparts, List.map_map]
    exact List.map_id'' (fun step => String.ofList_toList) _

/-- A leaf is read back from its entry. -/
theorem readLeaf?_line {leaf : Leaf} (hne : leaf.steps ≠ [""])
    (h : ∀ step ∈ leaf.steps, '.' ∉ step.toList ∧ ':' ∉ step.toList) :
    readLeaf? leaf.line.toList = some leaf := by
  have hpath : ':' ∉ List.intercalate ['.'] (leaf.steps.map String.toList) :=
    notMem_intercalate (by decide) fun step hstep => (h step hstep).2
  -- So the first colon of the entry is the one behind the path.
  have hkept : ∀ c ∈ List.intercalate ['.'] (leaf.steps.map String.toList),
      decide (c ≠ ':') = true := by
    intro c hc
    exact decide_eq_true fun heq => hpath (heq ▸ hc)
  unfold readLeaf?
  rw [toList_line, List.takeWhile_append_of_pos hkept, List.dropWhile_append_of_pos hkept,
    List.takeWhile_cons_of_neg (by decide), List.dropWhile_cons_of_neg (by decide),
    List.append_nil, readSteps_intercalate hne fun step hstep => (h step hstep).1]
  obtain ⟨steps, text⟩ := leaf
  cases text with
  | none => rfl
  | some text => simp

theorem notMem_line {leaf : Leaf} (hsteps : ∀ step ∈ leaf.steps, '\n' ∉ step.toList)
    (htext : ∀ text, leaf.text = some text → '\n' ∉ text.toList) : '\n' ∉ leaf.line.toList := by
  rw [toList_line, List.mem_append, not_or, List.mem_cons, not_or]
  refine ⟨notMem_intercalate (by decide) hsteps, by decide, ?_⟩
  cases h : leaf.text with
  | none => exact List.not_mem_nil
  | some text =>
    exact fun hmem => (List.mem_cons.mp hmem).elim (by decide) (htext text h)

/-! ## Plain documents -/

/-- A text is written without line breaks, unless it is a string that has some. -/
theorem notMem_leafText {leaf : Json} {text : String} (h : leafText? leaf = some text)
    (hstring : ∀ text, leaf = .string text → '\n' ∉ text.toList) : '\n' ∉ text.toList := by
  cases leaf with
  | string s =>
    rw [← Option.some.inj h]
    exact hstring s rfl
  | bool b =>
    rw [← Option.some.inj h]
    cases b <;> decide
  | number n =>
    rw [← Option.some.inj h]
    exact fun hmem => absurd (isNumberChar_of_mem_text _ hmem) (by decide)
  | _ => cases h

theorem isPlainKey_of_mem {way : List Step} {step : String} (h : step ∈ way.map Step.text)
    (hkeys : ∀ name, .key name ∈ way → IsPlainKey name) : IsPlainKey step := by
  rcases List.mem_map.mp h with ⟨key | n, hstep, rfl⟩
  · exact hkeys key hstep
  · have hdigit : ∀ c : Char, c.isDigit = false → c ∉ (toString n).toList := by
      intro c hc hmem
      rw [isDigit_of_mem_toString n c hmem] at hc
      cases hc
    exact ⟨hdigit _ (by decide), hdigit _ (by decide), hdigit _ (by decide)⟩

/-- A document is plain if its own keys and its own string are, and all its children. -/
theorem isPlain_of_children (hstring : ∀ text, document = .string text → '\n' ∉ text.toList)
    (hkeys : ∀ c ∈ document.children, ∀ name, c.1 = .key name → IsPlainKey name)
    (hchildren : ∀ c ∈ document.children, c.2.IsPlain) : document.IsPlain where
  keys := by
    intro way value hway name hname
    cases way with
    | nil => cases hname
    | cons step way =>
      rcases Option.bind_eq_some_iff.mp hway with ⟨child, hchild, hway⟩
      have hmem := mem_children_of_at? hchild
      rcases List.mem_cons.mp hname with heq | hname
      · exact hkeys _ hmem name heq.symm
      · exact (hchildren _ hmem).keys way value hway name hname
  strings := by
    intro way text hway
    cases way with
    | nil => exact hstring text (Option.some.inj hway)
    | cons step way =>
      rcases Option.bind_eq_some_iff.mp hway with ⟨child, hchild, hway⟩
      exact (hchildren _ (mem_children_of_at? hchild)).strings way text hway

theorem isPlain_of_isLeaf (hleaf : document.isLeaf = true)
    (hstring : ∀ text, document = .string text → '\n' ∉ text.toList) : document.IsPlain := by
  refine isPlain_of_children hstring ?_ ?_ <;>
    (rw [children_of_isLeaf hleaf]; exact List.forall_mem_nil _)

theorem isPlain_array {items : List Json} (h : ∀ item ∈ items, item.IsPlain) :
    (array items).IsPlain := by
  refine isPlain_of_children (fun _ heq => by cases heq) ?_ ?_
  · rintro c hchild name hname
    rcases List.mem_map.mp hchild with ⟨item, -, rfl⟩
    cases hname
  · rintro c hchild
    rcases List.mem_map.mp hchild with ⟨item, hitem, rfl⟩
    exact h item.1 (List.fst_mem_of_mem_zipIdx hitem)

theorem isPlain_object {fields : List (String × Json)}
    (h : ∀ field ∈ fields, IsPlainKey field.1 ∧ field.2.IsPlain) : (object fields).IsPlain := by
  refine isPlain_of_children (fun _ heq => by cases heq) ?_ ?_
  · rintro c hchild name hname
    rcases List.mem_map.mp hchild with ⟨field, hfield, rfl⟩
    cases hname
    exact (h field hfield).1
  · rintro c hchild
    rcases List.mem_map.mp hchild with ⟨field, hfield, rfl⟩
    exact (h field hfield).2

/-! ## Listings -/

/-- No way consists of an empty step, if no step at the outside is empty. -/
theorem steps_ne_of_mem_leaves (h : ∀ c ∈ document.children, c.1.text ≠ "") {leaf : Leaf}
    (hleaf : leaf ∈ document.leaves) : leaf.steps ≠ [""] := by
  cases hnode : document.isLeaf with
  | true =>
    rw [leaves_of_isLeaf hnode, List.mem_singleton] at hleaf
    rw [hleaf]
    exact (List.cons_ne_nil _ _).symm
  | false =>
    rw [leaves_of_node hnode] at hleaf
    rcases List.mem_flatMap.mp hleaf with ⟨c, hchild, hbelow⟩
    rcases List.mem_map.mp hbelow with ⟨_, -, rfl⟩
    exact fun heq => h c hchild (List.cons.inj heq).1

theorem text_ne_of_mem_children (h : ∀ fields, document = .object fields →
    ∀ field ∈ fields, field.1 ≠ "") : ∀ c ∈ document.children, c.1.text ≠ "" := by
  intro c hchild
  cases document with
  | object fields =>
    rcases List.mem_map.mp hchild with ⟨field, hfield, rfl⟩
    exact h fields rfl field hfield
  | array items =>
    rcases List.mem_map.mp hchild with ⟨item, -, rfl⟩
    exact Nat.repr_ne_empty
  | _ => cases hchild

/-- What the leaves of a plain document are written with. -/
theorem isPlain_of_mem_leaves (hordered : document.Ordered) (h : document.IsPlain) {leaf : Leaf}
    (hleaf : leaf ∈ document.leaves) : (∀ step ∈ leaf.steps, IsPlainKey step) ∧
      ∀ text, leaf.text = some text → '\n' ∉ text.toList := by
  rw [leaves_eq] at hleaf
  rcases List.mem_map.mp hleaf with ⟨⟨way, value⟩, hentry, rfl⟩
  have hway := ((mem_entries_iff hordered).mp hentry).1
  constructor
  · exact fun step hstep => isPlainKey_of_mem hstep (h.keys way value hway)
  · exact fun text htext => notMem_leafText htext fun text heq => h.strings way text (heq ▸ hway)

/-- The leaves of a plain document are read back from its listing. -/
theorem readListing?_dotted (hordered : document.Ordered)
    (hsteps : ∀ c ∈ document.children, c.1.text ≠ "") (h : document.IsPlain) :
    readListing? (dotted document) = some document.leaves := by
  have hlines : ∀ text ∈ document.leaves.map Leaf.line, '\n' ∉ text.toList := by
    intro text htext
    rcases List.mem_map.mp htext with ⟨leaf, hleaf, rfl⟩
    rcases isPlain_of_mem_leaves hordered h hleaf with ⟨hkeys, htext⟩
    exact notMem_line (fun step hstep => (hkeys step hstep).2.2) htext
  have hread : ∀ leaf ∈ document.leaves,
      (readLeaf? ∘ String.toList ∘ Leaf.line) leaf = some (id leaf) := by
    intro leaf hleaf
    have hkeys := (isPlain_of_mem_leaves hordered h hleaf).1
    exact readLeaf?_line (steps_ne_of_mem_leaves hsteps hleaf)
      fun step hstep => ⟨(hkeys step hstep).1, (hkeys step hstep).2.1⟩
  unfold readListing?
  rw [dotted_eq hsteps, (lines?_endLines_eq_iff _).mpr hlines, Option.bind_some, List.map_map,
    List.mapM_map, mapM_eq_some_of_forall hread, List.map_id]

/-- The listing of a document without an empty key at the outside lists each leaf once, in the
    order of the ways to them. If the document is plain, the leaves are read back from it. -/
theorem dotted_lists_leaves (hordered : document.Ordered)
    (houter : ∀ fields, document = .object fields → ∀ field ∈ fields, field.1 ≠ "") :
    (∀ way leaf, (way, leaf) ∈ document.entries ↔
        document.follow? way = some leaf ∧ leaf.isLeaf = true) ∧
      (document.entries.Pairwise fun a b => List.Lex Step.Before a.1 b.1) ∧
      (document.entries.map Prod.fst).Nodup ∧
      document.leaves = document.entries.map writtenEntry ∧
      dotted document = endLines (document.leaves.map Leaf.line) ∧
      (document.IsPlain → readListing? (dotted document) = some document.leaves) := by
  have hsteps := text_ne_of_mem_children houter
  exact ⟨fun way leaf => mem_entries_iff hordered, pairwise_entries hordered, nodup_ways hordered,
    leaves_eq document, dotted_eq hsteps, readListing?_dotted hordered hsteps⟩

theorem dotted_lists_leaves_nested :
    let first := array [.null, .string "x: y", .object []]
    let second := object [("", .number (.integer (-1)))]
    let document := object [("a", first), ("b", second)]
    dotted document = "a.0:\na.1: x: y\nb.: -1\n" ∧ readListing? (dotted document) =
      some [⟨["a", "0"], none⟩, ⟨["a", "1"], some "x: y"⟩, ⟨["b", ""], some "-1"⟩] := by
  intro first second document
  have hordered : document.Ordered := by
    have hempty : (object []).Ordered := ordered_object .nil (List.forall_mem_nil _)
    have hfirst : first.Ordered := ordered_array (List.forall_mem_cons.mpr
      ⟨ordered_of_isLeaf rfl, List.forall_mem_cons.mpr
        ⟨ordered_of_isLeaf rfl, List.forall_mem_singleton.mpr hempty⟩⟩)
    have hsecond : second.Ordered := ordered_object (List.pairwise_singleton _ _)
      (List.forall_mem_singleton.mpr (ordered_of_isLeaf rfl))
    exact ordered_object (List.pairwise_pair.mpr (by decide)) (List.forall_mem_cons.mpr
      ⟨hfirst, List.forall_mem_singleton.mpr hsecond⟩)
  have hplain : document.IsPlain := by
    have hempty : (object []).IsPlain := isPlain_object (List.forall_mem_nil _)
    have hfirst : first.IsPlain := isPlain_array (List.forall_mem_cons.mpr
      ⟨isPlain_of_isLeaf rfl (by simp), List.forall_mem_cons.mpr
        ⟨isPlain_of_isLeaf rfl (by simp), List.forall_mem_singleton.mpr hempty⟩⟩)
    have hsecond : second.IsPlain := isPlain_object (List.forall_mem_singleton.mpr
      ⟨by simp [IsPlainKey], isPlain_of_isLeaf rfl (by simp)⟩)
    exact isPlain_object (List.forall_mem_cons.mpr ⟨⟨by simp [IsPlainKey], hfirst⟩,
      List.forall_mem_singleton.mpr ⟨by simp [IsPlainKey], hsecond⟩⟩)
  have houter : ∀ fields, document = .object fields → ∀ field ∈ fields, field.1 ≠ "" := by
    rintro fields heq
    rw [← object.inj heq]
    simp
  rcases dotted_lists_leaves hordered houter with ⟨-, -, -, -, hlisting, hread⟩
  rw [hread hplain, hlisting]
  decide +kernel

end Json

end BrokerClient
