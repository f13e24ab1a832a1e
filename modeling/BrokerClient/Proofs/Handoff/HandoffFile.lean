import BrokerClient.Proofs.Handoff.Words
import BrokerClient.Proofs.Recipe.Lines

/-!
# What a Handoff File Says

A handoff file passes three readers. Make cuts it into lines and expands the
recipe line, and the shell splits what comes out into words. The quoting is
made for the last two of them, and they always agree with it. The first one
knows nothing of quotes: a line break inside a word ends the recipe line,
unless the word has a backslash in front of it that takes the line break
along.

So a handoff file carries its command line exactly if no word ends a line. If
one does, the recipe line that make sees stops inside the quotes of that word,
and the shell refuses it. Nothing else is run in its place.

## Main definitions

* `Makefile.Carries`: The words that come out of a makefile with one recipe line.

## Theorems

* `Relaunch.carries_content`: A handoff file carries words that end no line.
* `Relaunch.recipeWords_content_eq_none`: The recipe line of any other one is refused.
* `Relaunch.makefile_carries_iff`: A handoff file carries its command line exactly if no word
  ends a line.
* `Relaunch.makefile_loses_lineBreak`: A word with a line break is lost.
-/

namespace BrokerClient

/-- A makefile has one rule with one recipe line, and that line runs the
    words. -/
def Makefile.Carries (source : List Char) (words : List (List Char)) : Prop :=
  ∃ target recipe, readRules source = some [⟨target, [recipe]⟩] ∧ recipeWords recipe = some words

namespace Relaunch

open Makefile (signs endsLine readRules recipeWords)
open Makefile.LineState

theorem readRules_content (line : List String) :
    readRules (content line).toList =
      (Makefile.logicalLines ('\t' :: signs ++ Recipe.quoteWords (line.map String.toList) ++
        ['\n'])).foldlM Makefile.readLine [⟨target.toList, []⟩] := by
  unfold content
  rw [String.toList_ofList]
  exact Makefile.readRules_text _ _ _ (by decide) (by decide) rfl

theorem recipeWords_quoteWords {words : List (List Char)} (h : words ≠ []) :
    recipeWords (signs ++ Recipe.quoteWords words) = some words := by
  cases words with
  | nil => exact absurd rfl h
  | cons word words =>
    have hread := Recipe.splitWords_expand_quoteWords (word :: words)
    rw [Recipe.quoteWords_cons] at hread ⊢
    exact hread

/-- A handoff file carries words that end no line. -/
theorem carries_content {line : List String} (hne : line ≠ [])
    (h : ∀ word ∈ line, endsLine word.toList = false) :
    Makefile.Carries (content line).toList (line.map String.toList) := by
  have hwords : ∀ w ∈ line.map String.toList, endsLine w = false := by
    intro w hw
    rcases List.mem_map.mp hw with ⟨word, hword, rfl⟩
    exact h word hword
  refine ⟨target.toList, signs ++ Recipe.quoteWords (line.map String.toList), ?_,
    recipeWords_quoteWords fun hnil => hne (List.map_eq_nil_iff.mp hnil)⟩
  have hline : plain.after ('\t' :: signs ++ Recipe.quoteWords (line.map String.toList)) =
      plain := by
    rw [after_append]
    exact Makefile.after_quoteWords _ hwords
  rw [readRules_content, Makefile.logicalLines_append hline]
  rfl

/-- The first word that ends a line, and the part of it on that line. -/
theorem exists_cut {line : List String} (h : ¬ ∀ word ∈ line, endsLine word.toList = false) :
    ∃ before front back after, line.map String.toList = before ++ (front ++ '\n' :: back) :: after ∧
      (∀ w ∈ before, endsLine w = false) ∧ plain.after front = plain := by
  -- The first such word is the one that counts: before it no line has ended.
  rcases hfind : line.find? (fun word => endsLine word.toList) with _ | word
  · have hnone := List.find?_eq_none.mp hfind
    exact absurd (fun word hword => Bool.eq_false_iff.mpr (hnone word hword)) h
  · rcases List.find?_eq_some_iff_append.mp hfind with ⟨hends, before, after, rfl, hbefore⟩
    rcases Makefile.exists_lineEnd word.toList (by decide) (of_decide_eq_true hends)
      with ⟨front, back, hword, hfront⟩
    refine ⟨before.map String.toList, front, back, after.map String.toList, ?_, ?_, hfront⟩
    · rw [List.map_append, List.map_cons, hword]
    · intro w hw
      rcases List.mem_map.mp hw with ⟨v, hv, rfl⟩
      exact Bool.eq_false_iff.mpr fun hv' => absurd hv' (by simpa using hbefore v hv)

/-- If a word ends a line, the rule of the handoff file has a recipe line that
    stops inside this word, and the shell refuses that line. -/
theorem recipeWords_content_eq_none {line : List String} {rules : List Makefile.Rule}
    (h : ¬ ∀ word ∈ line, endsLine word.toList = false)
    (hrules : readRules (content line).toList = some rules) :
    ∃ cut more rest, rules = ⟨target.toList, cut :: more⟩ :: rest ∧ recipeWords cut = none := by
  rcases exists_cut h with ⟨before, front, back, after, hline, hbefore, hfront⟩
  -- Up to the line break the line is that of words that end no line.
  have hlead : plain.after ('\t' :: signs ++
      (before.flatMap fun w => Recipe.quoteWord w ++ [' ']) ++
        '\'' :: front.flatMap Recipe.quoteChar) = plain := by
    rw [after_append, after_append, show plain.after ('\t' :: signs) = plain from rfl,
      Makefile.after_leadingWords before hbefore, after_cons,
      next_plain_of_ne (by decide) (by decide), Makefile.after_quoteChars]
    exact hfront
  have htext : '\t' :: signs ++ Recipe.quoteWords (line.map String.toList) ++ ['\n'] =
      ('\t' :: signs ++ (before.flatMap fun w => Recipe.quoteWord w ++ [' ']) ++
        '\'' :: front.flatMap Recipe.quoteChar) ++ '\n' :: (back.flatMap Recipe.quoteChar ++ '\'' ::
          (after.flatMap (fun w => ' ' :: Recipe.quoteWord w) ++ ['\n'])) := by
    rw [hline, Recipe.quoteWords_append_cons]
    unfold Recipe.quoteWord
    simp only [List.flatMap_append, List.flatMap_cons, List.append_assoc, List.cons_append,
      List.nil_append, show Recipe.quoteChar '\n' = ['\n'] from rfl]
  -- What stands behind the line break is read as more lines, which only add to the rules.
  rw [readRules_content, htext, Makefile.logicalLines_append hlead, List.foldlM_cons] at hrules
  rcases Makefile.foldlM_readLine_extends _ ⟨target.toList, _⟩ [] rules hrules
    with ⟨more, rest, hextends⟩
  refine ⟨_, more, rest, hextends, ?_⟩
  -- In front of the line stand the signs and then the quote of the first word.
  have hcut := Recipe.splitWords_cut before front
  cases before with
  | nil => exact hcut
  | cons first before => exact hcut

/-- So a word that ends a line takes the whole command line with it, and
    nothing else is run in its place. -/
theorem not_carries_content {line : List String} {words : List (List Char)}
    (h : ¬ ∀ word ∈ line, endsLine word.toList = false) :
    ¬ Makefile.Carries (content line).toList words := by
  rintro ⟨name, recipe, hrules, hwords⟩
  rcases recipeWords_content_eq_none h hrules with ⟨cut, more, rest, heq, hcut⟩
  rcases List.cons.inj heq with ⟨hrule, -⟩
  rcases List.cons.inj (Makefile.Rule.mk.inj hrule).2 with ⟨hrecipe, -⟩
  rw [hrecipe, hcut] at hwords
  exact absurd hwords (Option.some_ne_none _).symm

theorem ne_nil_of_commandLine {r : Relaunch} {handoff : Path} {line : List String}
    (h : r.commandLine handoff = .ok line) : line ≠ [] := by
  rintro rfl
  exact absurd (commandLine_eq_ok_iff.mp h) (List.cons_ne_nil _ _)

/-- A command line that can be handed over comes out of its handoff file again
    exactly if none of its words ends a line. -/
theorem makefile_carries_iff {r : Relaunch} {handoff : Path} {line : List String}
    (h : r.commandLine handoff = .ok line) :
    ∃ source, r.makefile handoff = .ok source ∧
      (Makefile.Carries source.toList (line.map String.toList) ↔
        ∀ word ∈ line, endsLine word.toList = false) := by
  refine ⟨content line, makefile_of_commandLine_ok h, ?_, carries_content (ne_nil_of_commandLine h)⟩
  intro hcarries
  exact Classical.not_not.mp fun hends => not_carries_content hends hcarries

/-- Quotes, dollar signs and line breaks behind a backslash all come through. -/
theorem makefile_carries_escapedBreak :
    ∃ source, (⟨"tcf", [], ["run", "echo", "it's $5,\\\n on two lines"]⟩ : Relaunch).makefile
        "/tmp/h.mk" = .ok source ∧
      Makefile.Carries source.toList (["tcf", "--make-jobserver=/tmp/h.mk", "run", "echo",
        "it's $5,\\\n on two lines"].map String.toList) := by
  have hline : (⟨"tcf", [], ["run", "echo", "it's $5,\\\n on two lines"]⟩ : Relaunch).commandLine
      "/tmp/h.mk" = .ok ["tcf", "--make-jobserver=/tmp/h.mk", "run", "echo",
        "it's $5,\\\n on two lines"] := commandLine_eq_ok_iff.mpr (by decide)
  rcases makefile_carries_iff hline with ⟨source, hsource, hcarries⟩
  exact ⟨source, hsource, hcarries.mpr (by decide)⟩

/-- A line break that no backslash takes along is lost, and the command line
    with it. -/
theorem makefile_loses_lineBreak :
    (⟨"tcf", [], ["run", "printf", "%s", "a\nb"]⟩ : Relaunch).commandLine "/tmp/h.mk" =
        .ok ["tcf", "--make-jobserver=/tmp/h.mk", "run", "printf", "%s", "a\nb"] ∧
      ∃ source, (⟨"tcf", [], ["run", "printf", "%s", "a\nb"]⟩ : Relaunch).makefile "/tmp/h.mk" =
          .ok source ∧
        ¬ Makefile.Carries source.toList (["tcf", "--make-jobserver=/tmp/h.mk", "run", "printf",
          "%s", "a\nb"].map String.toList) := by
  have hline : (⟨"tcf", [], ["run", "printf", "%s", "a\nb"]⟩ : Relaunch).commandLine "/tmp/h.mk" =
      .ok ["tcf", "--make-jobserver=/tmp/h.mk", "run", "printf", "%s", "a\nb"] :=
    commandLine_eq_ok_iff.mpr (by decide)
  exact ⟨hline, _, makefile_of_commandLine_ok hline, not_carries_content (by decide)⟩

end Relaunch

end BrokerClient
