import BrokerClient.Proofs.CommandLine.Globals
import BrokerClient.Proofs.Handoff.Words

/-!
# The Flag of a Handoff File

The flag that names a handoff file is one of the options in front of the
command. Without a file it is settled with the empty path, and then it is one
of the arguments that a relaunch drops. The marker that a relaunch puts in
front is the same option with the file.

What is settled with the marker and without flags that name no file is related
to what is settled without the marker and with such flags (`withMarker`). Any
other option keeps the relation, and so does a flag without a file, which the
relation does not see.

## Main definitions

* `Relaunch.handoffOption`: The option that the flag is.
* `Relaunch.withMarker`: What is settled behind the marker.
* `Relaunch.IsUnset`: No file was named so far.

## Theorems

* `Relaunch.marker_eq_longForm`: The marker is the long form of the option.
* `Relaunch.isEmptyFlag_iff`: The arguments that are dropped are those of the option without a file.
* `Relaunch.ofMatches_withMarker`: What the marker changes in a command line.
* `Relaunch.settleOption_withMarker`: Any other option settles as before.
* `Relaunch.withMarker_of_settleOption`: The flag without a file does not show.
* `Relaunch.settleOption_repeated`: Behind the marker the flag is refused.
* `Relaunch.isEmptyFlag_of_enter`: While no file is named, the flag is one that is dropped.
-/

namespace BrokerClient

namespace Relaunch

open Options (Grammar Matches Progress Spec longForm)
open CommandLine (grammar)

/-! ## The flag -/

/-- The name of the flag. -/
def flagName : String := "make-jobserver"

/-- The option that the flag is. -/
def handoffOption : Spec := grammar.options[2]

theorem long?_handoffOption : grammar.long? handoffOption.long.toList = some handoffOption := rfl

theorem eq_handoffOption {s : Spec} (hmem : s ∈ grammar.options) (hlong : s.long = flagName) :
    s = handoffOption := by
  have hfilter : grammar.options.filter (fun s => decide (s.long = flagName)) =
      [handoffOption] := rfl
  have hs : s ∈ grammar.options.filter (fun s => decide (s.long = flagName)) :=
    List.mem_filter.mpr ⟨hmem, decide_eq_true hlong⟩
  rw [hfilter] at hs
  exact List.mem_singleton.mp hs

/-- The option is entered by its long form. -/
theorem step_handoffOption {called : String} {p : Progress} (ht : p.trailing = false)
    (inline : Option OsText) :
    grammar.step called p (longForm handoffOption inline) =
      grammar.enter called p handoffOption inline :=
  Grammar.step_longForm long?_handoffOption (by decide) (by decide) (fun h => by cases h) ht

theorem marker_eq_longForm (handoff : Path) :
    marker handoff = longForm handoffOption (some handoff) := by
  have hassign : flagAssign.bytes = 0x2D :: 0x2D :: (OsText.ofString handoffOption.long).bytes ++
      [0x3D] := by decide
  refine congrArg OsText.mk ?_
  rw [hassign, List.append_assoc]
  rfl

theorem isEmptyFlag_iff (argument : OsText) :
    isEmptyFlag argument = true ↔ argument = longForm handoffOption none ∨
      argument = longForm handoffOption (some .empty) := by
  have hflag : OsText.ofString flag = longForm handoffOption none := by decide
  have hassign : flagAssign = longForm handoffOption (some .empty) := by decide
  unfold isEmptyFlag
  rw [Bool.or_eq_true, decide_eq_true_eq, decide_eq_true_eq, hflag, hassign]

/-- The marker is no flag of the configuration. -/
theorem flag?_marker (handoff : Path) : ConfigArguments.flag? (marker handoff) = none := by
  rw [marker_eq_longForm]
  exact ConfigArguments.flag?_longForm (by decide) (by decide) handoff

/-! ## What is settled -/

/-- What the second reading has settled when the first one has settled some
    options: the flag with its file in front, and all other options. -/
def withMarker (handoff : String) (m : Matches) : Matches :=
  { m with found := (flagName, [OsText.ofString handoff]) ::
      m.found.filter fun f => !decide (f.1 = flagName) }

theorem has_withMarker {handoff long : String} (h : long ≠ flagName) (m : Matches) :
    (withMarker handoff m).has long = m.has long := by
  unfold Matches.has withMarker
  rw [List.any_cons, decide_eq_false h.symm, Bool.false_or, List.any_filter]
  refine List.any_congr rfl fun f => ?_
  by_cases hf' : f.1 = long
  · rw [decide_eq_true hf', hf', decide_eq_false h]
    rfl
  · rw [decide_eq_false hf', Bool.and_false]

theorem valuesOf_withMarker {handoff long : String} (h : long ≠ flagName) (m : Matches) :
    (withMarker handoff m).valuesOf long = m.valuesOf long := by
  unfold Matches.valuesOf withMarker
  rw [List.filter_cons_of_neg (by rw [decide_eq_true_eq]; exact h.symm), List.filter_filter]
  refine congrArg (List.flatMap Prod.snd) (List.filter_congr fun f _ => ?_)
  by_cases hf : f.1 = long
  · rw [decide_eq_true hf, hf, decide_eq_false h]
    rfl
  · rw [decide_eq_false hf, Bool.false_and]

theorem textsOf_withMarker {handoff long : String} (h : long ≠ flagName) (m : Matches) :
    (withMarker handoff m).textsOf long = m.textsOf long := by
  unfold Matches.textsOf
  rw [valuesOf_withMarker h]

theorem textsOf_of_filter {m : Matches} {long text : String}
    (h : m.found.filter (fun f => decide (f.1 = long)) = [(long, [OsText.ofString text])]) :
    m.textsOf long = [text] := by
  unfold Matches.textsOf Matches.valuesOf
  rw [h]
  simp only [List.flatMap_cons, List.flatMap_nil, List.append_nil, List.filterMap_cons,
    OsText.text?_ofString, List.filterMap_nil]

/-- The flag has its file, and it is the only one. -/
theorem textsOf_flagName_withMarker (handoff : String) (m : Matches) :
    (withMarker handoff m).textsOf flagName = [handoff] := by
  -- The other occurrences of the flag are exactly what `withMarker` takes out.
  have hrest : (m.found.filter fun f => !decide (f.1 = flagName)).filter
      (fun f => decide (f.1 = flagName)) = [] := by
    rw [List.filter_filter]
    refine List.filter_eq_nil_iff.mpr fun f _ => ?_
    cases decide (f.1 = flagName) <;> decide
  refine textsOf_of_filter ?_
  unfold withMarker
  rw [List.filter_cons_of_pos (by rw [decide_eq_true_eq]), hrest]

theorem ofMatches_withMarker (handoff : String) (m : Matches) (command : Option Command) :
    CommandLine.ofMatches (withMarker handoff m) command =
      { CommandLine.ofMatches m command with makeJobserver := some handoff } := by
  unfold CommandLine.ofMatches
  rw [show "make-jobserver" = flagName from rfl, textsOf_flagName_withMarker,
    has_withMarker (by decide), has_withMarker (by decide), has_withMarker (by decide),
    textsOf_withMarker (by decide)]
  rfl

/-- No file was named so far. -/
def IsUnset (m : Matches) : Prop := ∀ text, (m.textsOf flagName).head? = some text → text = ""

theorem IsUnset.mono {m m' : Matches} (h : IsUnset m') (hfound : m.found <+: m'.found) :
    IsUnset m := by
  rcases hfound with ⟨more, hmore⟩
  -- Later arguments only add texts behind the first one.
  have htexts : m'.textsOf flagName = m.textsOf flagName ++
      ((more.filter fun f => decide (f.1 = flagName)).flatMap Prod.snd).filterMap OsText.text? := by
    unfold Matches.textsOf Matches.valuesOf
    rw [← hmore, List.filter_append, List.flatMap_append, List.filterMap_append]
  intro text htext
  refine h text ?_
  rw [htexts, List.head?_append, htext]
  rfl

theorem settleOption_withMarker {called handoff : String} {m m' : Matches} {s : Spec}
    {values : List OsText} (hs : s.long ≠ flagName)
    (h : grammar.settleOption called m s values = .ok m') :
    grammar.settleOption called (withMarker handoff m) s values = .ok (withMarker handoff m') := by
  rcases Grammar.settleOption_eq_ok_iff.mp h with ⟨hroles, hrepeated, hcheck, rfl⟩
  refine Grammar.settleOption_eq_ok_iff.mpr ⟨hroles, ?_, hcheck, ?_⟩
  -- The check for a repetition asks for an option that the marker is not.
  · rw [has_withMarker hs, hrepeated]
  · unfold withMarker
    rw [List.filter_append, List.filter_cons_of_pos (by simpa using hs), List.filter_nil]
    rfl

/-- A flag without a file changes nothing that the second reading settles. -/
theorem withMarker_of_settleOption {called handoff : String} {m m' : Matches}
    {values : List OsText} (h : grammar.settleOption called m handoffOption values = .ok m') :
    withMarker handoff m' = withMarker handoff m := by
  have hdrop : [(handoffOption.long, values)].filter (fun f => !decide (f.1 = flagName)) = [] := rfl
  rw [(Grammar.settleOption_eq_ok_iff.mp h).2.2.2]
  unfold withMarker
  rw [List.filter_append, hdrop, List.append_nil]

/-- Behind the marker the flag cannot be given again. -/
theorem settleOption_repeated (called handoff : String) (m : Matches) (values : List OsText) :
    grammar.settleOption called (withMarker handoff m) handoffOption values =
      .error (.repeated handoffOption.shown) := by
  have hhas : (withMarker handoff m).has handoffOption.long = true := by
    unfold Matches.has withMarker
    rw [List.any_cons]
    rfl
  unfold Grammar.settleOption
  simp only [hhas]
  rfl

theorem filter_of_not_has {m : Matches} {long : String} (h : m.has long = false) :
    m.found.filter (fun f => decide (f.1 = long)) = [] :=
  List.filter_eq_nil_iff.mpr fun f hf => List.any_eq_false.mp h f hf

theorem exists_text_of_checkValues {shown : String} {value : OsText}
    (h : Grammar.checkValues Options.requireText shown [value] = .ok ()) :
    ∃ text, value = OsText.ofString text := by
  cases htext : value.text? with
  | some text => exact ⟨text, OsText.text?_eq_some_iff.mp htext⟩
  | none =>
    unfold Grammar.checkValues Options.requireText at h
    simp only [List.findSome?_cons, htext] at h
    cases h

/-- As long as no file is named, the flag is settled with the empty path, and
    the argument that gave it is one that is dropped. -/
theorem isEmptyFlag_of_enter {called : String} {p p' : Progress} {inline : Option OsText}
    (h : grammar.enter called p handoffOption inline = .ok p') (hunset : IsUnset p'.settled) :
    isEmptyFlag (longForm handoffOption inline) = true := by
  rcases Grammar.exists_settle_of_enter h with ⟨m, hm⟩
  cases inline with
  | none => decide
  | some value =>
    rw [Grammar.enter_settles hm (rfl : Grammar.valuesHere _ (some value) = some [value])] at h
    rcases exists_of_map_eq_ok h with ⟨m', hm', rfl⟩
    rcases Grammar.settleOption_eq_ok_iff.mp hm' with ⟨-, hrepeated, hcheck, rfl⟩
    rcases exists_text_of_checkValues hcheck with ⟨text, rfl⟩
    -- The flag may be given once, so this is the first time.
    have hfirst : m.has flagName = false := by
      have honce : handoffOption.repeatable = false := rfl
      rw [honce, Bool.not_false, Bool.and_true] at hrepeated
      exact hrepeated
    have htexts : (Matches.mk (m.found ++ [(flagName, [OsText.ofString text])]) m.values).textsOf
        flagName = [text] := by
      refine textsOf_of_filter ?_
      rw [List.filter_append, filter_of_not_has hfirst, List.nil_append]
      exact List.filter_cons_of_pos (by rw [decide_eq_true_eq])
    -- A file would be the first text of the flag, and there is none.
    have hempty : text = "" := hunset text (congrArg List.head? htexts)
    rw [hempty]
    decide

end Relaunch

end BrokerClient
