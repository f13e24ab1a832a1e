import BrokerClient.Proofs.Recipe.Quoting
import Mathlib.Data.List.Basic

/-!
# Quoting Is Undone

Words that are quoted for a recipe come back unchanged from make and the shell.
What make does is a relation here: every dollar sign must belong to a pair, read
from the left, and each pair becomes one sign. A line with a dollar sign that
stands alone is related to nothing, and no line is related to two others, so
`expandDollars` is this relation as a function.

In a quoted line all dollar signs come in pairs, because each of them was
doubled and no other character in between is one. The shell then finds the
words between the quotes. So the words can be told from the line alone, and no
two lists of words are quoted the same way.

## Main definitions

* `Recipe.Collapses`: A line, and the same with one dollar sign for each pair.

## Theorems

* `Recipe.expandDollars_eq_some_iff`: What make hands on is the collapsed line.
* `Recipe.quoteWords_injective`: Different words are quoted differently.
* `Recipe.quote_reads_back`: Make and the shell undo the quoting of any words.
-/

namespace BrokerClient

namespace Recipe

/-- A line in which every dollar sign belongs to a pair, read from the left, and
    the same line with one sign for each pair. -/
inductive Collapses : List Char → List Char → Prop
  | nil : Collapses [] []
  | pair {rest line : List Char} (collapses : Collapses rest line) :
      Collapses ('$' :: '$' :: rest) ('$' :: line)
  | other {c : Char} {rest line : List Char} (ne : c ≠ '$') (collapses : Collapses rest line) :
      Collapses (c :: rest) (c :: line)

theorem expandDollars_pair (rest : List Char) :
    expandDollars ('$' :: '$' :: rest) = (expandDollars rest).map ('$' :: ·) := by
  rw [expandDollars, if_pos rfl]

theorem expandDollars_of_collapses {s line : List Char} (h : Collapses s line) :
    expandDollars s = some line := by
  induction h with
  | nil => rfl
  | pair _ ih => rw [expandDollars_pair, ih, Option.map_some]
  | other ne _ ih => rw [expandDollars_cons ne, ih, Option.map_some]

theorem collapses_of_expandDollars {s line : List Char} (h : expandDollars s = some line) :
    Collapses s line := by
  -- The cases are those of the reader: the end, a single sign, two characters, any other one.
  fun_induction expandDollars s generalizing line with
  | case1 =>
    rw [← Option.some.inj h]
    exact .nil
  | case2 => cases h
  | case3 r ih =>
    rcases Option.map_eq_some_iff.mp h with ⟨t, ht, rfl⟩
    exact .pair (ih ht)
  | case4 => cases h
  | case5 c r hsingle hpair ih =>
    rcases Option.map_eq_some_iff.mp h with ⟨t, ht, rfl⟩
    refine .other ?_ (ih ht)
    rintro rfl
    -- A dollar sign here would be at the end or in front of another character.
    cases r with
    | nil => exact hsingle rfl rfl
    | cons d r => exact hpair d r rfl rfl

/-- What make hands on is the line with one dollar sign for each pair, and a
    line with a sign outside a pair is refused. -/
theorem expandDollars_eq_some_iff {s line : List Char} :
    expandDollars s = some line ↔ Collapses s line :=
  ⟨collapses_of_expandDollars, expandDollars_of_collapses⟩

/-- The shell gets a line, and reads the words in it. -/
theorem exists_line_of_quoteWords (words : List (List Char)) :
    ∃ line, expandDollars (quoteWords words) = some line ∧ splitWords line = some words :=
  Option.bind_eq_some_iff.mp (splitWords_expand_quoteWords words)

/-- Different words are quoted differently. -/
theorem quoteWords_injective : Function.Injective quoteWords := by
  intro words others h
  -- Both are what is read from the same line.
  have hwords := splitWords_expand_quoteWords words
  rw [h, splitWords_expand_quoteWords others] at hwords
  exact (Option.some.inj hwords).symm

theorem toList_quote (words : List String) :
    (quote words).toList = quoteWords (words.map String.toList) := String.toList_ofList

/-- Make and the shell undo the quoting of any words: all dollar signs come in
    pairs, and in the line with one sign for each pair the shell finds exactly
    the words. So no two lists of words are quoted the same way. -/
theorem quote_reads_back :
    (∀ words : List String, (∃ line, Collapses (quote words).toList line) ∧
      ∀ line, Collapses (quote words).toList line →
        splitWords line = some (words.map String.toList)) ∧
    Function.Injective quote := by
  refine ⟨fun words => ?_, fun words others h => ?_⟩
  · rw [toList_quote]
    rcases exists_line_of_quoteWords (words.map String.toList) with ⟨line, hline, hwords⟩
    refine ⟨⟨line, expandDollars_eq_some_iff.mp hline⟩, fun line' hline' => ?_⟩
    -- Make hands on one line only.
    rw [← expandDollars_eq_some_iff, hline] at hline'
    rw [← Option.some.inj hline', hwords]
  · have hquoted :
        quoteWords (words.map String.toList) = quoteWords (others.map String.toList) := by
      rw [← toList_quote, h, toList_quote]
    exact List.map_injective_iff.mpr (fun _ _ => String.toList_inj.mp)
      (quoteWords_injective hquoted)

/-- Quotes, dollar signs, an empty word and a line break are all in the line. -/
example : (expandDollars (quote ["it's", "$$5", "", "a\nb"]).toList).bind splitWords =
    some (["it's", "$$5", "", "a\nb"].map String.toList) := by
  decide +kernel

end Recipe

end BrokerClient
