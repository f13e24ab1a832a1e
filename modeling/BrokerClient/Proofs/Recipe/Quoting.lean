import BrokerClient.Recipe.Quoting

/-!
# Quoted Words and Their Two Readers

What make and the shell do to quoted words, one reader after the other. Make
undoes the doubling of dollar signs, and what it hands on is the same line
with every word in `shellWord` form, where only single quotes are escaped. The
shell then reads each such word back.

Both readers are followed with arbitrary text behind the word. The expansion
never looks back, and the shell remembers no more than its state, so a word
moves the shell from one state to another and the rest of the line is read
from there. A line that is cut off inside a word leaves the shell between
single quotes, where no line may end.

## Main definitions

* `Recipe.shellChar`, `Recipe.shellWord`: What make hands on for a character and a word.

## Theorems

* `Recipe.quoteWords_cons`: The first word and the others behind a space each.
* `Recipe.expandDollars_quoteWord_append`: Make hands a word on in its shell form.
* `Recipe.splitFrom_shellWord_append`: The shell reads such a word and goes on behind it.
* `Recipe.splitFrom_between_shellWords`: The shell reads words up to their end.
* `Recipe.splitWords_cut`: A line that ends inside a word is refused.
-/

namespace BrokerClient

namespace Recipe

/-! ## Words on a line -/

/-- The first word stands at the front, and a space stands in front of every
    other word. -/
theorem quoteWords_cons (word : List Char) (words : List (List Char)) :
    quoteWords (word :: words) = quoteWord word ++ words.flatMap fun w => ' ' :: quoteWord w := by
  induction words generalizing word with
  | nil =>
    rw [List.flatMap_nil, List.append_nil]
    exact List.intercalate_singleton
  | cons next words ih =>
    have hnext := ih next
    unfold quoteWords at hnext ⊢
    rw [List.map_cons, List.map_cons, List.intercalate_cons_cons, ← List.map_cons, hnext,
      List.flatMap_cons, List.append_assoc]
    rfl

/-- Words in front of another one end with a space each. -/
theorem quoteWords_append_cons (before : List (List Char)) (word : List Char)
    (after : List (List Char)) :
    quoteWords (before ++ word :: after) =
      (before.flatMap fun w => quoteWord w ++ [' ']) ++ quoteWord word ++
        after.flatMap fun w => ' ' :: quoteWord w := by
  induction before with
  | nil => exact quoteWords_cons word after
  | cons first before ih =>
    cases before with
    | nil =>
      rw [List.cons_append, List.nil_append, quoteWords_cons, List.flatMap_cons]
      simp only [List.flatMap_cons, List.flatMap_nil, List.append_assoc, List.cons_append,
        List.nil_append, List.append_nil]
    | cons second before =>
      rw [List.cons_append, List.cons_append, quoteWords_cons, List.flatMap_cons]
      rw [List.cons_append, quoteWords_cons] at ih
      simp only [List.flatMap_cons, List.append_assoc, List.cons_append, List.nil_append] at ih ⊢
      rw [ih]

/-! ## What make hands on -/

/-- What make hands to the shell for a character of a word. -/
def shellChar (c : Char) : List Char :=
  if c = '\'' then ['\'', '\\', '\'', '\''] else [c]

/-- What make hands to the shell for a word. -/
def shellWord (word : List Char) : List Char :=
  '\'' :: word.flatMap shellChar ++ ['\'']

theorem expandDollars_cons {c : Char} (h : c ≠ '$') (r : List Char) :
    expandDollars (c :: r) = (expandDollars r).map (c :: ·) := by
  rw [expandDollars]
  · intro hc
    exact absurd hc h
  · intro d t hc
    exact absurd hc h

theorem expandDollars_quoteChar_append (c : Char) (r : List Char) :
    expandDollars (quoteChar c ++ r) = (expandDollars r).map (shellChar c ++ ·) := by
  unfold quoteChar shellChar
  by_cases hq : c = '\''
  · rw [if_pos hq, if_pos hq]
    simp only [List.cons_append, List.nil_append]
    -- No character of an escaped quote is a dollar sign.
    rw [expandDollars_cons (by decide), expandDollars_cons (by decide),
      expandDollars_cons (by decide), expandDollars_cons (by decide)]
    simp only [Option.map_map]
    rfl
  · rw [if_neg hq, if_neg hq]
    by_cases hd : c = '$'
    · rw [if_pos hd, hd]
      simp only [List.cons_append, List.nil_append]
      -- Two dollar signs are one.
      rw [expandDollars, if_pos rfl]
    · rw [if_neg hd]
      exact expandDollars_cons hd r

theorem expandDollars_quoteChars_append (word r : List Char) :
    expandDollars (word.flatMap quoteChar ++ r) =
      (expandDollars r).map (word.flatMap shellChar ++ ·) := by
  induction word with
  | nil =>
    simp only [List.flatMap_nil, List.nil_append]
    exact Option.map_id'.symm
  | cons c word ih =>
    rw [List.flatMap_cons, List.append_assoc, expandDollars_quoteChar_append, ih, Option.map_map]
    simp only [List.flatMap_cons, List.append_assoc]
    rfl

/-- Make hands a word on in its shell form, and then whatever it makes of the
    rest of the line. -/
theorem expandDollars_quoteWord_append (word r : List Char) :
    expandDollars (quoteWord word ++ r) = (expandDollars r).map (shellWord word ++ ·) := by
  unfold quoteWord shellWord
  simp only [List.cons_append, List.append_assoc, List.nil_append]
  rw [expandDollars_cons (by decide), expandDollars_quoteChars_append,
    expandDollars_cons (by decide), Option.map_map, Option.map_map]
  rfl

/-- The words behind the first one reach the shell behind a space each. -/
theorem expandDollars_spaced (words : List (List Char)) :
    expandDollars (words.flatMap fun w => ' ' :: quoteWord w) =
      some (words.flatMap fun w => ' ' :: shellWord w) := by
  induction words with
  | nil => rfl
  | cons word words ih =>
    rw [List.flatMap_cons, List.cons_append, expandDollars_cons (by decide),
      expandDollars_quoteWord_append, ih]
    rfl

/-! ## What the shell reads -/

theorem splitFrom_inQuotes_quote (w r : List Char) :
    splitFrom (.inQuotes w) ('\'' :: r) = splitFrom (.inWord w) r := by
  rw [splitFrom, if_pos rfl]

theorem splitFrom_inQuotes_cons {c : Char} (h : c ≠ '\'') (w r : List Char) :
    splitFrom (.inQuotes w) (c :: r) = splitFrom (.inQuotes (c :: w)) r := by
  rw [splitFrom, if_neg h]

theorem splitFrom_inWord_quote (w r : List Char) :
    splitFrom (.inWord w) ('\'' :: r) = splitFrom (.inQuotes w) r := by
  rw [splitFrom, if_neg (by decide), if_pos rfl]
  intro c t h
  exact absurd h (by decide)

theorem splitFrom_inWord_space (w r : List Char) :
    splitFrom (.inWord w) (' ' :: r) = (splitFrom .between r).map (w.reverse :: ·) := by
  rw [splitFrom, if_pos (by decide)]
  intro c t h
  exact absurd h (by decide)

theorem splitFrom_between_quote (r : List Char) :
    splitFrom .between ('\'' :: r) = splitFrom (.inQuotes []) r := by
  rw [splitFrom, if_neg (by decide), if_pos rfl]
  intro c t h
  exact absurd h (by decide)

theorem splitFrom_shellChar_append (c : Char) (w r : List Char) :
    splitFrom (.inQuotes w) (shellChar c ++ r) = splitFrom (.inQuotes (c :: w)) r := by
  unfold shellChar
  by_cases hq : c = '\''
  · -- Out of the quotes, the escaped quote, and into the quotes again.
    rw [if_pos hq, hq]
    simp only [List.cons_append, List.nil_append]
    rw [splitFrom_inQuotes_quote, splitFrom, splitFrom_inWord_quote]
  · rw [if_neg hq, List.cons_append, List.nil_append, splitFrom_inQuotes_cons hq]

/-- Between quotes the shell takes the characters of a word one by one. -/
theorem splitFrom_shellChars_append (word w r : List Char) :
    splitFrom (.inQuotes w) (word.flatMap shellChar ++ r) =
      splitFrom (.inQuotes (word.reverse ++ w)) r := by
  induction word generalizing w with
  | nil => rfl
  | cons c word ih =>
    rw [List.flatMap_cons, List.append_assoc, splitFrom_shellChar_append, ih, List.reverse_cons,
      List.append_assoc]
    rfl

/-- The shell reads a word and stands behind it, still in the word. -/
theorem splitFrom_shellWord_append (word r : List Char) :
    splitFrom .between (shellWord word ++ r) = splitFrom (.inWord word.reverse) r := by
  unfold shellWord
  simp only [List.cons_append, List.append_assoc, List.nil_append]
  rw [splitFrom_between_quote, splitFrom_shellChars_append, splitFrom_inQuotes_quote,
    List.append_nil]

theorem splitFrom_inWord_spaced (w : List Char) (words : List (List Char)) :
    splitFrom (.inWord w) (words.flatMap fun v => ' ' :: shellWord v) =
      some (w.reverse :: words) := by
  induction words generalizing w with
  | nil => exact splitFrom.eq_2 w
  | cons word words ih =>
    rw [List.flatMap_cons, List.cons_append, splitFrom_inWord_space, splitFrom_shellWord_append,
      ih, List.reverse_reverse]
    rfl

/-- Words that end with a space each are read, and the rest of the line is
    read from between words. -/
theorem splitFrom_between_shellWords (words : List (List Char)) (r : List Char) :
    splitFrom .between ((words.flatMap fun w => shellWord w ++ [' ']) ++ r) =
      (splitFrom .between r).map (words ++ ·) := by
  induction words with
  | nil => exact Option.map_id'.symm
  | cons word words ih =>
    rw [List.flatMap_cons, List.append_assoc, List.append_assoc, splitFrom_shellWord_append,
      List.cons_append, List.nil_append, splitFrom_inWord_space, ih, Option.map_map,
      List.reverse_reverse]
    rfl

/-! ## Both readers -/

/-- Make and the shell read quoted words back. -/
theorem splitWords_expand_quoteWords (words : List (List Char)) :
    (expandDollars (quoteWords words)).bind splitWords = some words := by
  cases words with
  | nil => rfl
  | cons word words =>
    rw [quoteWords_cons, expandDollars_quoteWord_append, expandDollars_spaced]
    simp only [Option.map_some, Option.bind_some]
    unfold splitWords
    rw [splitFrom_shellWord_append, splitFrom_inWord_spaced, List.reverse_reverse]

theorem expandDollars_words_append (words : List (List Char)) (r : List Char) :
    expandDollars ((words.flatMap fun w => quoteWord w ++ [' ']) ++ r) =
      (expandDollars r).map ((words.flatMap fun w => shellWord w ++ [' ']) ++ ·) := by
  induction words with
  | nil => exact Option.map_id'.symm
  | cons word words ih =>
    rw [List.flatMap_cons, List.append_assoc, List.append_assoc, expandDollars_quoteWord_append,
      List.cons_append, List.nil_append, expandDollars_cons (by decide), ih, Option.map_map,
      Option.map_map]
    simp only [List.flatMap_cons, List.append_assoc]
    rfl

/-- A line that ends inside a word ends between single quotes, and the shell
    refuses it. -/
theorem splitWords_cut (before : List (List Char)) (front : List Char) :
    (expandDollars ((before.flatMap fun w => quoteWord w ++ [' ']) ++
      '\'' :: front.flatMap quoteChar)).bind splitWords = none := by
  have hfront : expandDollars (front.flatMap quoteChar) = some (front.flatMap shellChar) := by
    have h := expandDollars_quoteChars_append front []
    rw [List.append_nil] at h
    rw [h]
    exact congrArg some (List.append_nil _)
  -- The quote of this word is still open at the end of the line.
  have hcut : splitFrom (.inQuotes []) (front.flatMap shellChar) = none := by
    have h := splitFrom_shellChars_append front [] []
    rw [List.append_nil] at h
    rw [h]
    exact splitFrom.eq_3 _
  rw [expandDollars_words_append, expandDollars_cons (by decide), hfront]
  simp only [Option.map_some, Option.bind_some]
  unfold splitWords
  rw [splitFrom_between_shellWords, splitFrom_between_quote, hcut]
  rfl

end Recipe

end BrokerClient
