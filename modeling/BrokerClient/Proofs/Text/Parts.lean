import BrokerClient.Text.Splitting

/-!
# Parts of Joined Texts

A text is cut at every separator, so there is one part more than there are separators, and
what stands on both sides of a separator is cut on its own. Parts that have no separator in
them are read back when they were joined with it.

## Theorems

* `splitAll_append_cons`: Both sides of a separator are cut on their own.
* `splitAll_flatMap_concat`: Texts that each end with a separator are cut one after the other.
* `length_splitAll`: How many parts there are.
* `splitAll_intercalate`: Joined parts are read back.
* `forall_mem_intercalate`: There is nothing else in joined parts.
-/

namespace BrokerClient

variable {separator : Char}

theorem splitAll_ne_nil (text : List Char) : splitAll separator text ≠ [] := by
  cases text with
  | nil => exact List.cons_ne_nil _ _
  | cons c text =>
    rw [splitAll]
    split
    · exact List.cons_ne_nil _ _
    · split <;> exact List.cons_ne_nil _ _

theorem splitAll_separator_cons (text : List Char) :
    splitAll separator (separator :: text) = [] :: splitAll separator text := by
  rw [splitAll, if_pos rfl]

theorem splitAll_cons {c : Char} (hc : c ≠ separator) {text part : List Char}
    {parts : List (List Char)} (h : splitAll separator text = part :: parts) :
    splitAll separator (c :: text) = (c :: part) :: parts := by
  rw [splitAll, if_neg hc, h]

/-- Both sides of a separator are cut on their own. -/
theorem splitAll_append_cons (front back : List Char) :
    splitAll separator (front ++ separator :: back) =
      splitAll separator front ++ splitAll separator back := by
  induction front with
  | nil => exact splitAll_separator_cons back
  | cons c front ih =>
    rw [List.cons_append]
    by_cases hc : c = separator
    · rw [hc, splitAll_separator_cons, splitAll_separator_cons, ih, List.cons_append]
    · rcases hfront : splitAll separator front with _ | ⟨part, parts⟩
      · exact absurd hfront (splitAll_ne_nil front)
      · rw [hfront, List.cons_append] at ih
        rw [splitAll_cons hc hfront, splitAll_cons hc ih, List.cons_append]

/-- Texts that each end with a separator are cut one after the other, and nothing stands behind
    the last separator. -/
theorem splitAll_flatMap_concat (texts : List (List Char)) :
    splitAll separator (texts.flatMap fun text => text ++ [separator]) =
      texts.flatMap (splitAll separator) ++ [[]] := by
  induction texts with
  | nil => rfl
  | cons text texts ih =>
    rw [List.flatMap_cons, List.append_assoc, List.singleton_append, splitAll_append_cons, ih,
      List.flatMap_cons, List.append_assoc]

/-- There is one part more than there are separators. -/
theorem length_splitAll (text : List Char) :
    (splitAll separator text).length = text.count separator + 1 := by
  induction text with
  | nil => rfl
  | cons c text ih =>
    by_cases hc : c = separator
    · rw [hc, splitAll_separator_cons, List.length_cons, ih, List.count_cons_self]
    · rcases htext : splitAll separator text with _ | ⟨part, parts⟩
      · exact absurd htext (splitAll_ne_nil text)
      · rw [htext] at ih
        rw [splitAll_cons hc htext, List.count_cons_of_ne hc, ← ih]
        rfl

theorem splitAll_of_notMem {text : List Char} (h : separator ∉ text) :
    splitAll separator text = [text] := by
  induction text with
  | nil => rfl
  | cons c text ih =>
    rcases List.ne_and_not_mem_of_not_mem_cons h with ⟨hc, htext⟩
    exact splitAll_cons (Ne.symm hc) (ih htext)

/-- Joined parts without separators are read back. -/
theorem splitAll_intercalate {parts : List (List Char)} (hne : parts ≠ [])
    (h : ∀ part ∈ parts, separator ∉ part) :
    splitAll separator (List.intercalate [separator] parts) = parts := by
  induction parts with
  | nil => exact absurd rfl hne
  | cons first parts ih =>
    rcases List.forall_mem_cons.mp h with ⟨hfirst, hparts⟩
    cases parts with
    | nil =>
      rw [List.intercalate_singleton]
      exact splitAll_of_notMem hfirst
    | cons second parts =>
      rw [List.intercalate_cons_cons, List.append_assoc, List.singleton_append,
        splitAll_append_cons, splitAll_of_notMem hfirst, ih (List.cons_ne_nil _ _) hparts]
      rfl

/-- What holds of the separator and of all parts holds of what is joined. -/
theorem forall_mem_intercalate {α : Type} {P : α → Prop} {separator : List α}
    {parts : List (List α)} (hseparator : ∀ a ∈ separator, P a)
    (hparts : ∀ part ∈ parts, ∀ a ∈ part, P a) : ∀ a ∈ List.intercalate separator parts, P a := by
  induction parts with
  | nil => exact fun a ha => by cases ha
  | cons part parts ih =>
    rcases List.forall_mem_cons.mp hparts with ⟨hpart, hparts⟩
    cases parts with
    | nil =>
      rw [List.intercalate_singleton]
      exact hpart
    | cons next parts =>
      rw [List.intercalate_cons_cons]
      intro a ha
      rcases List.mem_append.mp ha with ha | ha
      · rcases List.mem_append.mp ha with ha | ha
        · exact hpart a ha
        · exact hseparator a ha
      · exact ih hparts a ha

end BrokerClient
