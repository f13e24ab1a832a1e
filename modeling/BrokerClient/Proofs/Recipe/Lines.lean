import BrokerClient.Proofs.Recipe.Quoting
import BrokerClient.Recipe.Makefile

/-!
# Lines of a Makefile with Quoted Words

Where make ends the recipe line of a written makefile. A line ends at a line
break that no backslash takes along, and quotes mean nothing to it. Reading a
line is therefore a machine with three states, and what a text does to it is
all that matters here.

Quoting adds backslashes of its own, in front of single quotes. None of them
stands in front of a line break, and `after_quoteChar` says that the machine
does not notice: the quoted form of a character moves it like the character
itself. So a word ends a line exactly if its quoted form does.

The rules are read line by line, and a line can only add to the rules before
it. So the first recipe line of a rule stays its first one, whatever follows.

## Main definitions

* `Makefile.LineState`: How make stands inside a line.
* `Makefile.LineState.after`: How it stands behind a text.
* `Makefile.endsLine`: Whether a line ends inside a text.

## Theorems

* `Makefile.logicalLines_append`: A text that ends no line is one line up to the next line break.
* `Makefile.exists_lineEnd`: Where the first line of a text ends.
* `Makefile.after_quoteChars`: Quoting a text does not change where lines end.
* `Makefile.after_quoteWords`: Words that end no line end none when quoted.
* `Makefile.readLine_extends`: A line only adds to the rules before it.
* `Makefile.foldlM_readLine_extends`: So do lines.
-/

namespace BrokerClient

namespace Makefile

/-- How make stands inside a line: a line break would end it, the next
    character is taken along by a backslash, or the line has ended. -/
inductive LineState where
  | plain
  | escaped
  | ended
  deriving DecidableEq, Repr

namespace LineState

/-- How make stands behind one more character. -/
def next : LineState → Char → LineState
  | ended, _ => ended
  | escaped, _ => plain
  | plain, c => if c = '\n' then ended else if c = '\\' then escaped else plain

/-- How make stands behind a text. -/
def after (state : LineState) (text : List Char) : LineState := text.foldl next state

theorem after_cons (state : LineState) (c : Char) (text : List Char) :
    state.after (c :: text) = (state.next c).after text := rfl

theorem after_append (state : LineState) (s t : List Char) :
    state.after (s ++ t) = (state.after s).after t := List.foldl_append

theorem next_plain_of_ne {c : Char} (hn : c ≠ '\n') (hb : c ≠ '\\') : plain.next c = plain := by
  simp only [next]
  rw [if_neg hn, if_neg hb]

theorem next_plain_eq_ended {c : Char} (h : plain.next c = ended) : c = '\n' := by
  by_cases hn : c = '\n'
  · exact hn
  · simp only [next, if_neg hn] at h
    split at h <;> exact absurd h (by decide)

/-- Behind the end of a line nothing changes any more. -/
theorem after_ended (text : List Char) : ended.after text = ended := by
  induction text with
  | nil => rfl
  | cons c text ih => exact ih

end LineState

open LineState

/-- Whether a line ends inside a text. -/
def endsLine (text : List Char) : Bool := plain.after text = ended

/-! ## The lines of a text -/

theorem logicalLines_cons {c : Char} (hn : c ≠ '\n') (hb : c ≠ '\\') {r line : List Char}
    {lines : List (List Char)} (h : logicalLines r = line :: lines) :
    logicalLines (c :: r) = (c :: line) :: lines := by
  rw [logicalLines, h]
  · intro h
    exact hn h
  · intro d t h
    exact absurd h hb

theorem logicalLines_escape (c : Char) {r line : List Char} {lines : List (List Char)}
    (h : logicalLines r = line :: lines) :
    logicalLines ('\\' :: c :: r) = ('\\' :: c :: line) :: lines := by
  rw [logicalLines, h]

/-- A text that ends no line is one line up to the line break behind it. The
    induction carries along the same for a text behind a backslash. -/
theorem logicalLines_append_aux (s r : List Char) :
    (plain.after s = plain → logicalLines (s ++ '\n' :: r) = s :: logicalLines r) ∧
      (escaped.after s = plain →
        logicalLines ('\\' :: s ++ '\n' :: r) = ('\\' :: s) :: logicalLines r) := by
  induction s with
  | nil =>
    constructor
    · intro _
      rw [List.nil_append, logicalLines]
    · intro h
      exact absurd h (by decide)
  | cons c s ih =>
    constructor
    · intro h
      rw [after_cons] at h
      by_cases hn : c = '\n'
      · subst hn
        rw [show plain.next '\n' = ended from rfl, after_ended] at h
        exact absurd h (by decide)
      · by_cases hb : c = '\\'
        · subst hb
          exact ih.2 h
        · rw [next_plain_of_ne hn hb] at h
          exact logicalLines_cons hn hb (ih.1 h)
    -- Behind a backslash any character is taken along, a line break too.
    · intro h
      exact logicalLines_escape c (ih.1 h)

theorem logicalLines_append {s : List Char} (h : plain.after s = plain) (r : List Char) :
    logicalLines (s ++ '\n' :: r) = s :: logicalLines r :=
  (logicalLines_append_aux s r).1 h

/-- A line that ends inside a text ends at a line break, and the text in front
    of it ends no line. -/
theorem exists_lineEnd (s : List Char) {state : LineState} (hs : state ≠ ended)
    (h : state.after s = ended) :
    ∃ front back, s = front ++ '\n' :: back ∧ state.after front = plain := by
  induction s generalizing state with
  | nil => exact absurd h hs
  | cons c s ih =>
    rw [after_cons] at h
    by_cases he : state.next c = ended
    · cases state with
      | ended => exact absurd rfl hs
      | escaped => exact absurd he (by simp only [next, reduceCtorEq, not_false_eq_true])
      | plain => exact ⟨[], s, by rw [next_plain_eq_ended he]; rfl, rfl⟩
    · rcases ih he h with ⟨front, back, rfl, hfront⟩
      exact ⟨c :: front, back, rfl, hfront⟩

/-! ## Quoted words -/

/-- The quoted form of a character moves the reader like the character. -/
theorem after_quoteChar (state : LineState) (c : Char) :
    state.after (Recipe.quoteChar c) = state.next c := by
  unfold Recipe.quoteChar
  by_cases hq : c = '\''
  · subst hq
    cases state <;> decide
  · rw [if_neg hq]
    by_cases hd : c = '$'
    · subst hd
      cases state <;> decide
    · rw [if_neg hd]
      rfl

/-- Quoting a text does not change where lines end. -/
theorem after_quoteChars (state : LineState) (text : List Char) :
    state.after (text.flatMap Recipe.quoteChar) = state.after text := by
  induction text generalizing state with
  | nil => rfl
  | cons c text ih => rw [List.flatMap_cons, after_append, after_quoteChar, ih, after_cons]

theorem after_quoteWord {word : List Char} (h : endsLine word = false) :
    plain.after (Recipe.quoteWord word) = plain := by
  have hw : plain.after word ≠ ended := of_decide_eq_false h
  unfold Recipe.quoteWord
  rw [List.cons_append, after_cons, next_plain_of_ne (by decide) (by decide), after_append,
    after_quoteChars]
  -- The closing quote is an ordinary character, or is taken along by the word.
  cases hstate : plain.after word with
  | plain => rfl
  | escaped => rfl
  | ended => exact absurd hstate hw

theorem after_flatMap (words : List (List Char)) (f : List Char → List Char)
    (h : ∀ w ∈ words, plain.after (f w) = plain) : plain.after (words.flatMap f) = plain := by
  induction words with
  | nil => rfl
  | cons word words ih =>
    rw [List.flatMap_cons, after_append, h word List.mem_cons_self]
    exact ih fun w hw => h w (List.mem_cons_of_mem _ hw)

/-- Words that end no line end none when they are quoted, with spaces between
    them. -/
theorem after_quoteWords (words : List (List Char)) (h : ∀ w ∈ words, endsLine w = false) :
    plain.after (Recipe.quoteWords words) = plain := by
  cases words with
  | nil => rfl
  | cons word words =>
    rw [Recipe.quoteWords_cons, after_append, after_quoteWord (h word List.mem_cons_self)]
    refine after_flatMap words _ (fun w hw => ?_)
    rw [after_cons, next_plain_of_ne (by decide) (by decide)]
    exact after_quoteWord (h w (List.mem_cons_of_mem _ hw))

/-- The same for words in front of another one. -/
theorem after_leadingWords (words : List (List Char)) (h : ∀ w ∈ words, endsLine w = false) :
    plain.after (words.flatMap fun w => Recipe.quoteWord w ++ [' ']) = plain := by
  refine after_flatMap words _ (fun w hw => ?_)
  rw [after_append, after_quoteWord (h w hw)]
  rfl

/-! ## Rules -/

theorem addRecipeLine_extends (line : List Char) (rule : Rule) (rules after : List Rule)
    (h : addRecipeLine line (rule :: rules) = some after) :
    ∃ more rest, after = ⟨rule.target, rule.recipe ++ more⟩ :: rest := by
  cases rules with
  | nil =>
    rw [addRecipeLine] at h
    exact ⟨[line], [], (Option.some.inj h).symm⟩
  | cons next rules =>
    rw [addRecipeLine] at h
    · rcases Option.map_eq_some_iff.mp h with ⟨rest, -, rfl⟩
      exact ⟨[], rest, by rw [List.append_nil]⟩
    · intro hnil
      exact absurd hnil (List.cons_ne_nil _ _)

/-- A line only adds to the rules before it. -/
theorem readLine_extends (line : List Char) (rule : Rule) (rules after : List Rule)
    (h : readLine (rule :: rules) line = some after) :
    ∃ more rest, after = ⟨rule.target, rule.recipe ++ more⟩ :: rest := by
  have hsame : ∃ more rest, rule :: rules = ⟨rule.target, rule.recipe ++ more⟩ :: rest :=
    ⟨[], rules, by rw [List.append_nil]⟩
  unfold readLine at h
  split at h
  · exact Option.some.inj h ▸ hsame
  · exact Option.some.inj h ▸ hsame
  · exact addRecipeLine_extends _ _ _ _ h
  · simp only at h
    split at h
    · exact absurd h (Option.some_ne_none _).symm
    · split at h
      · exact Option.some.inj h ▸ hsame
      · rw [← Option.some.inj h]
        exact ⟨[], rules ++ [⟨_, []⟩], by rw [List.append_nil]; rfl⟩

/-- So do lines one after the other. -/
theorem foldlM_readLine_extends (lines : List (List Char)) (rule : Rule) (rules after : List Rule)
    (h : lines.foldlM readLine (rule :: rules) = some after) :
    ∃ more rest, after = ⟨rule.target, rule.recipe ++ more⟩ :: rest := by
  induction lines generalizing rule rules with
  | nil =>
    rw [List.foldlM_nil] at h
    exact ⟨[], rules, by rw [List.append_nil]; exact (Option.some.inj h).symm⟩
  | cons line lines ih =>
    rw [List.foldlM_cons] at h
    rcases Option.bind_eq_some_iff.mp h with ⟨next, hnext, hrest⟩
    rcases readLine_extends line rule rules next hnext with ⟨more, rest, rfl⟩
    -- Each line keeps the target of the first rule and what is in its recipe.
    rcases ih _ _ hrest with ⟨more', rest', rfl⟩
    exact ⟨more ++ more', rest', by rw [List.append_assoc]⟩

/-- The lines in front of the recipe of a written makefile make a rule without
    recipe, if the line of the target names it, and the recipe is read into
    that rule. -/
theorem readRules_text (comment target recipe : List Char)
    (hcomment : plain.after comment = plain) (htarget : plain.after target = plain)
    (hline : readLine [] (target ++ [':']) = some [⟨target, []⟩]) :
    readRules (text comment target recipe) =
      (logicalLines ('\t' :: signs ++ recipe ++ ['\n'])).foldlM readLine [⟨target, []⟩] := by
  have hlines : text comment target recipe =
      ('#' :: ' ' :: comment) ++ '\n' :: ((phonyTarget ++ ':' :: ' ' :: target) ++
        '\n' :: ((target ++ [':']) ++ '\n' :: ('\t' :: signs ++ recipe ++ ['\n']))) := by
    unfold text
    simp only [List.append_assoc, List.cons_append, List.nil_append]
  -- Three lines stand in front of the recipe, and none of them ends early.
  have h₁ : plain.after ('#' :: ' ' :: comment) = plain := hcomment
  have h₂ : plain.after (phonyTarget ++ ':' :: ' ' :: target) = plain := by
    rw [after_append]
    exact htarget
  have h₃ : plain.after (target ++ [':']) = plain := by
    rw [after_append, htarget]
    rfl
  have hremark : readLine [] ('#' :: ' ' :: comment) = some [] := rfl
  have hphony : readLine [] (phonyTarget ++ ':' :: ' ' :: target) = some [] := rfl
  unfold readRules
  rw [hlines, logicalLines_append h₁, logicalLines_append h₂, logicalLines_append h₃]
  simp only [List.foldlM_cons, hremark, hphony, hline, Option.bind_eq_bind, Option.bind_some]

end Makefile

end BrokerClient
