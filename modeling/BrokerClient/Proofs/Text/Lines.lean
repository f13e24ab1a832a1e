import BrokerClient.Proofs.Text.Parts

/-!
# Lines

A text of lines has a line break at the end of each. Texts that are written as lines are read
back as they are exactly if none of them has a line break of its own; each of those begins
another line.

## Main definitions

* `lines?`: The lines of a text.
* `endLines`: Texts as lines.
* `lineBreaks`: How many line breaks a text has.

## Theorems

* `lines?_endLines`: The lines of texts that were written as lines.
* `length_lines_endLines`: How many there are.
* `lines?_endLines_eq_iff`: When they are the texts.
* `lineBreaks_append`, `lineBreaks_intercalate`: The breaks of texts that are put together.
-/

namespace BrokerClient

/-- The lines of a text, if each of them ends with a line break. -/
def lines? (text : String) : Option (List (List Char)) :=
  let parts := splitAll '\n' text.toList
  if parts.getLast? = some [] then some parts.dropLast else none

/-- Texts as lines. -/
def endLines (texts : List String) : String := String.join (texts.map fun text => text ++ "\n")

/-- The line breaks in a text. -/
def lineBreaks (text : String) : Nat := text.toList.count '\n'

/-! ## Line breaks -/

theorem lineBreaks_eq_zero_iff (text : String) : lineBreaks text = 0 ↔ '\n' ∉ text.toList :=
  List.count_eq_zero

theorem lineBreaks_append (front back : String) :
    lineBreaks (front ++ back) = lineBreaks front + lineBreaks back := by
  unfold lineBreaks
  rw [String.toList_append, List.count_append]

theorem lineBreaks_join_cons (text : String) (texts : List String) :
    lineBreaks (String.join (text :: texts)) =
      lineBreaks text + lineBreaks (String.join texts) := by
  rw [String.join_cons, lineBreaks_append]

theorem lineBreaks_join_singleton (text : String) :
    lineBreaks (String.join [text]) = lineBreaks text := by
  rw [lineBreaks_join_cons]
  rfl

/-- A separator without line breaks adds none. -/
theorem lineBreaks_intercalate {separator : String} (h : lineBreaks separator = 0)
    (texts : List String) :
    lineBreaks (separator.intercalate texts) = lineBreaks (String.join texts) := by
  induction texts with
  | nil => rfl
  | cons first texts ih =>
    rw [lineBreaks_join_cons]
    cases texts with
    | nil =>
      rw [String.intercalate_singleton]
      exact (Nat.add_zero _).symm
    | cons second texts =>
      rw [String.intercalate_cons_cons, lineBreaks_append, lineBreaks_append, h, Nat.add_zero, ih]

theorem lineBreaks_join_eq_zero_iff (texts : List String) :
    lineBreaks (String.join texts) = 0 ↔ ∀ text ∈ texts, '\n' ∉ text.toList := by
  rw [lineBreaks_eq_zero_iff, String.toList_join, List.mem_flatMap]
  simp only [not_exists, not_and]

/-! ## Writing lines -/

theorem endLines_singleton (text : String) : endLines [text] = text ++ "\n" := by
  unfold endLines
  rw [List.map_singleton, String.join_cons, String.join_nil, String.append_empty]

/-- Lines that come in groups are written group after group. -/
theorem endLines_flatMap {α : Type} (texts : α → List String) (items : List α) :
    endLines (items.flatMap texts) = String.join (items.map fun a => endLines (texts a)) := by
  induction items with
  | nil => rfl
  | cons a items ih =>
    rw [List.map_cons, String.join_cons, ← ih]
    unfold endLines
    rw [List.flatMap_cons, List.map_append, String.join_append]

/-! ## Reading lines -/

theorem toList_endLines (texts : List String) :
    (endLines texts).toList = (texts.map String.toList).flatMap fun text => text ++ ['\n'] := by
  unfold endLines
  rw [String.toList_join, List.flatMap_map, List.flatMap_map]
  exact congrArg (texts.flatMap ·) (funext fun text => String.toList_append)

/-- The lines of texts are those of each one, in their order. -/
theorem lines?_endLines (texts : List String) :
    lines? (endLines texts) = some (texts.flatMap fun text => splitAll '\n' text.toList) := by
  unfold lines?
  rw [toList_endLines, splitAll_flatMap_concat, List.flatMap_map]
  simp only
  rw [List.getLast?_concat, if_pos rfl, List.dropLast_concat]

/-- Every line break in a text begins another line. -/
theorem length_lines_endLines (texts : List String) :
    (texts.flatMap fun text => splitAll '\n' text.toList).length =
      texts.length + lineBreaks (String.join texts) := by
  induction texts with
  | nil => rfl
  | cons text texts ih =>
    rw [List.flatMap_cons, List.length_append, length_splitAll, ih, lineBreaks_join_cons,
      List.length_cons]
    unfold lineBreaks
    omega

/-- Texts are read back as they are exactly if they have no line breaks. -/
theorem lines?_endLines_eq_iff (texts : List String) :
    lines? (endLines texts) = some (texts.map String.toList) ↔
      ∀ text ∈ texts, '\n' ∉ text.toList := by
  rw [lines?_endLines]
  constructor
  · intro h
    have hlength := length_lines_endLines texts
    rw [Option.some.inj h, List.length_map] at hlength
    exact (lineBreaks_join_eq_zero_iff texts).mp (by omega)
  · intro h
    rw [List.map_eq_flatMap, List.flatMap_def, List.flatMap_def,
      List.map_congr_left fun text htext => splitAll_of_notMem (h text htext)]

end BrokerClient
