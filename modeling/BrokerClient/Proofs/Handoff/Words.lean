import BrokerClient.Handoff.Relaunch
import BrokerClient.Proofs.Control
import BrokerClient.Proofs.Text.Encoding

/-!
# The Words of a Relaunch

A command line is handed over only if all of its words are texts. The words are
looked at in their order, program first and the words of the command last, so
the one that is reported is the first that is no text.

## Main definitions

* `Relaunch.isUnreadable`: Whether a word is no text.
* `Relaunch.content`: The makefile that carries a command line.

## Theorems

* `Relaunch.commandLine_eq_ok_iff`: The texts of a command line encode its words.
* `Relaunch.commandLine_eq_error_iff`: The word that is reported is the first that is no text.
* `Relaunch.exists_text_of_commandLine`: The path of a handoff file is a text if it is carried.
* `Relaunch.makefile_eq_ok_iff`: A makefile is written exactly for a command line of texts.
* `Relaunch.makefile_eq_error_iff`: A makefile fails with the same word as the command line.
-/

namespace BrokerClient

namespace Relaunch

/-- Whether a word is no text. -/
def isUnreadable (word : OsText) : Bool := word.text?.isNone

theorem isUnreadable_ofString (s : String) : isUnreadable (OsText.ofString s) = false := by
  unfold isUnreadable
  rw [OsText.text?_ofString]
  rfl

theorem argumentText_ofString (s : String) : argumentText (OsText.ofString s) = .ok s := by
  unfold argumentText
  rw [OsText.text?_ofString]

theorem argumentText_of_isUnreadable {word : OsText} (h : isUnreadable word = true) :
    argumentText word = .error word := by
  unfold argumentText
  rw [Option.isNone_iff_eq_none.mp h]

theorem exists_text_of_not_isUnreadable {word : OsText} (h : isUnreadable word = false) :
    ∃ s, word = OsText.ofString s := by
  rcases ht : word.text? with _ | s
  · unfold isUnreadable at h
    rw [ht] at h
    exact absurd h (by decide)
  · exact ⟨s, OsText.text?_eq_some_iff.mp ht⟩

theorem mapM_argumentText_ofString (line : List String) :
    (line.map OsText.ofString).mapM argumentText = .ok line := by
  induction line with
  | nil => rfl
  | cons s line ih =>
    rw [List.map_cons, List.mapM_cons, argumentText_ofString, ih]
    rfl

/-- The words are looked at from the first to the last. -/
theorem mapM_argumentText_of_find? {words : List OsText} {word : OsText}
    (h : words.find? isUnreadable = some word) : words.mapM argumentText = .error word := by
  refine (mapM_eq_error_iff (fun w hw => ?_) fun w => argumentText_of_isUnreadable).mpr
    ⟨word, h, rfl⟩
  rcases exists_text_of_not_isUnreadable hw with ⟨s, rfl⟩
  exact ⟨s, argumentText_ofString s⟩

theorem exists_line_of_find? {words : List OsText} (h : words.find? isUnreadable = none) :
    ∃ line : List String, words = line.map OsText.ofString := by
  induction words with
  | nil => exact ⟨[], rfl⟩
  | cons first words ih =>
    rw [List.find?_eq_none] at h
    rcases exists_text_of_not_isUnreadable (Bool.eq_false_iff.mpr (h first List.mem_cons_self))
      with ⟨s, rfl⟩
    have hrest : words.find? isUnreadable = none :=
      List.find?_eq_none.mpr fun w hw => h w (List.mem_cons_of_mem _ hw)
    rcases ih hrest with ⟨line, rfl⟩
    exact ⟨s :: line, rfl⟩

/-- The texts of a command line are those whose encodings are its words. -/
theorem commandLine_eq_ok_iff {r : Relaunch} {handoff : Path} {line : List String} :
    r.commandLine handoff = .ok line ↔ r.words handoff = line.map OsText.ofString := by
  unfold commandLine
  constructor
  · intro h
    rcases hfind : (r.words handoff).find? isUnreadable with _ | word
    · rcases exists_line_of_find? hfind with ⟨line', hline⟩
      rw [hline, mapM_argumentText_ofString] at h
      rw [hline, Except.ok.inj h]
    -- A word that is no text would have been reported.
    · rw [mapM_argumentText_of_find? hfind] at h
      cases h
  · intro h
    rw [h, mapM_argumentText_ofString]

/-- The word that is reported is the first one that is no text. -/
theorem commandLine_eq_error_iff {r : Relaunch} {handoff : Path} {word : OsText} :
    r.commandLine handoff = .error word ↔ (r.words handoff).find? isUnreadable = some word := by
  unfold commandLine
  constructor
  · intro h
    rcases hfind : (r.words handoff).find? isUnreadable with _ | first
    · rcases exists_line_of_find? hfind with ⟨line, hline⟩
      rw [hline, mapM_argumentText_ofString] at h
      cases h
    · rw [mapM_argumentText_of_find? hfind] at h
      rw [Except.error.inj h]
  · exact mapM_argumentText_of_find?

theorem flagAssign_eq : flagAssign = OsText.ofString "--make-jobserver=" := by decide

/-- Only a handoff file with a path that is a text is carried. -/
theorem exists_text_of_commandLine {r : Relaunch} {handoff : Path} {line : List String}
    (h : r.commandLine handoff = .ok line) : ∃ path, handoff = OsText.ofString path := by
  have hmem : marker handoff ∈ r.words handoff := by
    unfold words
    exact List.mem_append_right _ List.mem_cons_self
  rw [commandLine_eq_ok_iff.mp h] at hmem
  rcases List.mem_map.mp hmem with ⟨text, -, htext⟩
  unfold marker at htext
  rw [flagAssign_eq] at htext
  exact OsText.exists_ofString_of_append htext.symm

/-- The makefile that carries a command line. -/
def content (line : List String) : String :=
  String.ofList (Makefile.text remark.toList target.toList
    (Recipe.quoteWords (line.map String.toList)))

theorem makefile_of_commandLine_ok {r : Relaunch} {handoff : Path} {line : List String}
    (h : r.commandLine handoff = .ok line) : r.makefile handoff = .ok (content line) := by
  unfold makefile
  rw [h]
  rfl

theorem makefile_of_commandLine_error {r : Relaunch} {handoff : Path} {word : OsText}
    (h : r.commandLine handoff = .error word) : r.makefile handoff = .error word := by
  unfold makefile
  rw [h]
  rfl

theorem makefile_eq_ok_iff {r : Relaunch} {handoff : Path} {text : String} :
    r.makefile handoff = .ok text ↔
      ∃ line, r.commandLine handoff = .ok line ∧ text = content line := by
  rcases hline : r.commandLine handoff with word | line
  · rw [makefile_of_commandLine_error hline]
    exact ⟨fun h => (by cases h), fun ⟨_, h, _⟩ => (by cases h)⟩
  · rw [makefile_of_commandLine_ok hline]
    constructor
    · intro h
      exact ⟨line, rfl, (Except.ok.inj h).symm⟩
    · rintro ⟨line', h, rfl⟩
      rw [Except.ok.inj h]

theorem makefile_eq_error_iff {r : Relaunch} {handoff : Path} {word : OsText} :
    r.makefile handoff = .error word ↔ (r.words handoff).find? isUnreadable = some word := by
  rw [← commandLine_eq_error_iff]
  rcases hline : r.commandLine handoff with first | line
  · rw [makefile_of_commandLine_error hline]
    exact ⟨fun h => (by rw [Except.error.inj h]), fun h => (by rw [Except.error.inj h])⟩
  · rw [makefile_of_commandLine_ok hline]
    exact ⟨fun h => (by cases h), fun h => (by cases h)⟩

/-- A makefile is only written for words that are texts. -/
theorem isUnreadable_of_makefile {r : Relaunch} {handoff : Path} {text : String}
    (h : r.makefile handoff = .ok text) : ∀ word ∈ r.words handoff, isUnreadable word = false := by
  rcases makefile_eq_ok_iff.mp h with ⟨line, hline, -⟩
  intro word hword
  rw [commandLine_eq_ok_iff.mp hline] at hword
  rcases List.mem_map.mp hword with ⟨s, -, rfl⟩
  exact isUnreadable_ofString s

end Relaunch

end BrokerClient
