import BrokerClient.Handoff.Token
import BrokerClient.Proofs.CommandLine.Globals
import BrokerClient.Proofs.Host.Alike

/-!
# Assignments on a Command Line

Assignments can be added to a command line at many places and in many spellings.
What counts is how the two lines are read: with the same configuration arguments,
and as the same line with more assignments in it.

A place where this always works is in front of the command. Whatever is pending
there is settled by the option that follows, and an option that may be repeated
and excludes none is accepted behind any others.

## Main definitions

* `CommandLine.AddsAssignments`: How the two lines are read.
* `CommandLine.assigning`: A command line with assignments put in front of its command.

## Theorems

* `CommandLine.exists_reads_flags`: The assignments in front of a command are read.
* `CommandLine.finish_withAssignments`: They are accepted behind any other options.
* `CommandLine.addsAssignments_assigning`: All they change is the list of assignments.
-/

namespace BrokerClient

namespace CommandLine

open Options (Grammar Matches Progress Spec longForm)
open Options.Grammar (Reads)

/-- Two command lines that are read the same, but for assignments that only the
    second one has. -/
structure AddsAssignments (arguments arguments' : List OsText) (line line' : CommandLine)
    (added : List Assignment) : Prop where
  configArguments : (ConfigArguments.split arguments').configArguments =
    (ConfigArguments.split arguments).configArguments
  reads : parse (ConfigArguments.split arguments).withoutConfig = .ok line
  readsMore : parse (ConfigArguments.split arguments').withoutConfig = .ok line'
  others : line' = { line with environment := line'.environment }
  adds : Assignment.Adds line.environment line'.environment added

namespace AddsAssignments

variable {arguments arguments' : List OsText} {line line' : CommandLine} {added : List Assignment}

theorem debug (h : AddsAssignments arguments arguments' line line' added) :
    line'.debug = line.debug := by
  rw [h.others]

theorem traces (h : AddsAssignments arguments arguments' line line' added) :
    line'.traces = line.traces := by
  rw [h.others]

theorem command (h : AddsAssignments arguments arguments' line line' added) :
    line'.command = line.command := by
  rw [h.others]

/-- The token is the same, too. -/
theorem ofFlags (h : AddsAssignments arguments arguments' line line' added) :
    HandoffToken.ofFlags line'.makeJobserver line'.noMakeJobserver =
      HandoffToken.ofFlags line.makeJobserver line.noMakeJobserver := by
  rw [h.others]

end AddsAssignments

/-! ## The option -/

/-- The option for assignments. -/
def assignmentOption : Spec := grammar.options[4]

/-- An assignment as one argument. -/
def assignmentFlag (text : String) : OsText :=
  longForm assignmentOption (some (OsText.ofString text))

theorem long?_assignmentOption :
    grammar.long? assignmentOption.long.toList = some assignmentOption := rfl

theorem isHarmless_assignment : grammar.IsHarmless assignmentOption.long := by
  unfold Grammar.IsHarmless
  decide

/-! ## What is settled -/

/-- What is settled when assignments follow. -/
def withAssignments (texts : List String) (m : Matches) : Matches :=
  { m with found := m.found ++
      texts.map fun text => (assignmentOption.long, [OsText.ofString text]) }

theorem withAssignments_cons (text : String) (texts : List String) (m : Matches) :
    withAssignments (text :: texts) m = withAssignments texts (withAssignments [text] m) := by
  unfold withAssignments
  rw [List.append_assoc]
  rfl

theorem filter_map_assignments (long : String) (texts : List String) :
    (texts.map fun text => (assignmentOption.long, [OsText.ofString text])).filter
        (fun f => decide (f.1 = long)) =
      if long = assignmentOption.long then
        texts.map fun text => (assignmentOption.long, [OsText.ofString text])
      else [] := by
  split
  · next h =>
    refine List.filter_eq_self.mpr fun f hf => ?_
    rcases List.mem_map.mp hf with ⟨text, -, rfl⟩
    exact decide_eq_true h.symm
  · next h =>
    refine List.filter_eq_nil_iff.mpr fun f hf => ?_
    rcases List.mem_map.mp hf with ⟨text, -, rfl⟩
    simpa using Ne.symm h

theorem has_withAssignments {long : String} (h : long ≠ assignmentOption.long)
    (texts : List String) (m : Matches) : (withAssignments texts m).has long = m.has long := by
  have hnone : (texts.map fun text => (assignmentOption.long, [OsText.ofString text])).any
      (fun f => decide (f.1 = long)) = false := by
    refine List.any_eq_false.mpr fun f hf => ?_
    rcases List.mem_map.mp hf with ⟨text, -, rfl⟩
    simpa using h.symm
  unfold Matches.has withAssignments
  rw [List.any_append, hnone, Bool.or_false]

theorem textsOf_withAssignments {long : String} (h : long ≠ assignmentOption.long)
    (texts : List String) (m : Matches) :
    (withAssignments texts m).textsOf long = m.textsOf long := by
  unfold Matches.textsOf Matches.valuesOf withAssignments
  rw [List.filter_append, filter_map_assignments, if_neg h, List.append_nil]

/-- The assignments are added behind those that are there. -/
theorem textsOf_assignments (texts : List String) (m : Matches) :
    (withAssignments texts m).textsOf assignmentOption.long =
      m.textsOf assignmentOption.long ++ texts := by
  have htexts : ((texts.map fun text => (assignmentOption.long, [OsText.ofString text])).flatMap
      Prod.snd).filterMap OsText.text? = texts := by
    induction texts with
    | nil => rfl
    | cons text texts ih =>
      rw [List.map_cons, List.flatMap_cons, List.filterMap_append, ih]
      simp only [List.filterMap_cons, OsText.text?_ofString, List.filterMap_nil,
        List.singleton_append]
  unfold Matches.textsOf Matches.valuesOf withAssignments
  rw [List.filter_append, filter_map_assignments, if_pos rfl, List.flatMap_append,
    List.filterMap_append, htexts]

theorem ofMatches_withAssignments (texts : List String) (m : Matches) (command : Option Command) :
    ofMatches (withAssignments texts m) command =
      { ofMatches m command with environment := (ofMatches m command).environment ++ texts } := by
  unfold ofMatches
  rw [show "environment" = assignmentOption.long from rfl, textsOf_assignments,
    has_withAssignments (by decide), has_withAssignments (by decide),
    has_withAssignments (by decide), textsOf_withAssignments (by decide)]

/-- An assignment settles behind anything. -/
theorem settleOption_assignment (called text : String) (m : Matches) :
    grammar.settleOption called m assignmentOption [OsText.ofString text] =
      .ok (withAssignments [text] m) :=
  Grammar.settleOption_eq_ok_iff.mpr
    ⟨by decide, Bool.and_false _, Grammar.checkValues_ofString _ _, rfl⟩

/-! ## Reading -/

theorem step_assignmentFlag {called : String} {p : Progress} {m : Matches} (text : String)
    (hm : grammar.settle called p = .ok m) (ht : p.trailing = false) :
    grammar.step called p (assignmentFlag text) =
      .ok ⟨withAssignments [text] m, .nothing, false⟩ := by
  unfold assignmentFlag
  rw [Grammar.step_longForm long?_assignmentOption (by decide) (by decide) (fun h => by cases h) ht,
    Grammar.enter_settles hm (rfl : Grammar.valuesHere _ (some (OsText.ofString text)) =
      some [OsText.ofString text]), settleOption_assignment, ht]
  rfl

/-- Assignments are read behind any options, and settle what was pending. -/
theorem exists_reads_flags {called : String} {p : Progress} {m : Matches} (texts : List String)
    (hm : grammar.settle called p = .ok m) (ht : p.trailing = false) :
    ∃ q, Reads grammar called p (texts.map assignmentFlag) q ∧ q.trailing = false ∧
      grammar.settle called q = .ok (withAssignments texts m) := by
  induction texts generalizing p m with
  | nil =>
    refine ⟨p, .nil p, ht, ?_⟩
    unfold withAssignments
    rw [hm, List.map_nil, List.append_nil]
  | cons text texts ih =>
    have hcommand : grammar.commandHere? p (assignmentFlag text) = none := by
      unfold Grammar.commandHere? assignmentFlag
      rw [command?_longForm, ite_self]
    rcases ih (Grammar.settle_nothing (withAssignments [text] m) false) rfl with
      ⟨q, hreads, htq, hq⟩
    refine ⟨q, .cons hcommand (step_assignmentFlag text hm ht) hreads, htq, ?_⟩
    rw [withAssignments_cons]
    exact hq

/-- Assignments are accepted behind any other options. -/
theorem finish_withAssignments {called : String} {p q : Progress} {m : Matches}
    {texts : List String} (hfinish : grammar.finish called p = .ok m)
    (hq : grammar.settle called q = .ok (withAssignments texts m)) :
    grammar.finish called q = .ok (withAssignments texts m) := by
  rcases exists_of_bind_eq_ok hfinish with ⟨m', -, hm'⟩
  rcases exists_of_bind_eq_ok hm' with ⟨u, hvalid, hm'⟩
  cases Except.ok.inj hm'
  have hadded : ∀ f ∈ texts.map fun text => (assignmentOption.long, [OsText.ofString text]),
      grammar.IsHarmless f.1 := by
    intro f hf
    rcases List.mem_map.mp hf with ⟨text, -, rfl⟩
    exact isHarmless_assignment
  have hvalid' : grammar.validate (withAssignments texts m) = .ok u := by
    unfold Grammar.validate withAssignments at *
    rwa [Grammar.conflict?_append hadded]
  unfold Grammar.finish
  rw [hq]
  simp only [bind, Except.bind, hvalid']
  rfl

/-! ## In front of the command -/

/-- A command line with assignments put in front of its command. -/
def assigning (texts : List String) (arguments : List OsText) : List OsText :=
  let parts := ConfigArguments.split arguments
  let globals := globals parts.withoutConfig
  parts.configArguments ++ (globals ++ texts.map assignmentFlag ++
    parts.commandArguments.drop globals.length)

/-- What the command line with assignments is read as. -/
theorem parse_assigning {program word : OsText} {front payload : List OsText} {name : String}
    {p : Progress} {m : Matches} {command : Command} (texts : List String)
    (hreads : Reads grammar (calledName program) start front p)
    (hword : grammar.commandHere? p word = some name)
    (hpayload : parseCommand (calledAs? program) name payload = .ok command)
    (hfinish : grammar.finish (calledName program) p = .ok m) :
    parse (program :: (front ++ texts.map assignmentFlag ++ word :: payload)) =
      .ok (ofMatches (withAssignments texts m) (some command)) := by
  rcases exists_of_bind_eq_ok hfinish with ⟨m', hm, hm'⟩
  rcases exists_of_bind_eq_ok hm' with ⟨u, -, hm'⟩
  cases Except.ok.inj hm'
  rcases exists_reads_flags texts hm (Grammar.trailing_of_commandHere? hword) with
    ⟨q, hflags, ht, hq⟩
  have hword' : grammar.commandHere? q word = some name := by
    unfold Grammar.commandHere? at hword ⊢
    rw [Grammar.trailing_of_commandHere? hword, Grammar.isAwaiting_of_settle hm] at hword
    rwa [ht, Grammar.isAwaiting_of_settle hq]
  exact parse_of_reads (hreads.append hflags) hword' hpayload (finish_withAssignments hfinish hq)

/-- The cut behind the configuration stays where it is. -/
theorem split_assigning {program word : OsText} {rest front payload : List OsText}
    (texts : List String)
    (hwords : (ConfigArguments.split (program :: rest)).commandArguments =
      front ++ word :: payload) :
    ConfigArguments.split ((ConfigArguments.split (program :: rest)).configArguments ++
        (front ++ texts.map assignmentFlag ++ word :: payload)) =
      ⟨(ConfigArguments.split (program :: rest)).configArguments,
        front ++ texts.map assignmentFlag ++ word :: payload⟩ := by
  have hrest : (ConfigArguments.split (program :: rest)).commandArguments ≠ [] := by
    rw [hwords]
    exact List.append_ne_nil_of_right_ne_nil _ (List.cons_ne_nil _ _)
  -- What comes first behind it is what came first before, or an assignment.
  have hnext : ∃ next back, front ++ texts.map assignmentFlag ++ word :: payload = next :: back ∧
      ConfigArguments.flag? next = none := by
    cases front with
    | cons first front => exact ⟨first, _, rfl, ConfigArguments.flag?_of_spanConfig hwords⟩
    | nil =>
      cases texts with
      | nil => exact ⟨word, payload, rfl, ConfigArguments.flag?_of_spanConfig hwords⟩
      | cons text texts =>
        exact ⟨assignmentFlag text, _, rfl,
          ConfigArguments.flag?_longForm (by decide) (by decide) _⟩
  rcases hnext with ⟨next, back, hnext, hflag⟩
  rw [hnext]
  exact ConfigArguments.split_append_cons hrest hflag back

/-- All that assignments in front of the command change is the list of
    assignments. -/
theorem addsAssignments_assigning {arguments : List OsText} {line : CommandLine}
    {command : Command} {texts : List String} {added : List Assignment}
    (hparse : parse (ConfigArguments.split arguments).withoutConfig = .ok line)
    (hcommand : line.command = some command) (htexts : texts.mapM Assignment.parse = .ok added) :
    AddsAssignments arguments (assigning texts arguments) line
      { line with environment := line.environment ++ texts } added := by
  rcases ne_nil_of_parse hparse hcommand with ⟨program, rest, rfl, -⟩
  have hparts : (ConfigArguments.split (program :: rest)).withoutConfig =
      program :: (ConfigArguments.split (program :: rest)).commandArguments := rfl
  rcases exists_reads_of_parse (hparts ▸ hparse) hcommand with
    ⟨front, word, name, payload, p, m, hwords, hreads, hword, hpayload, hfinish, rfl⟩
  have hassigning : assigning texts (program :: rest) =
      (ConfigArguments.split (program :: rest)).configArguments ++
        (front ++ texts.map assignmentFlag ++ word :: payload) := by
    unfold assigning
    simp only [hparts, hwords]
    rw [globals_of_reads hreads hword, List.drop_left]
  have hsplit := split_assigning texts hwords
  have hline := parse_assigning texts hreads hword hpayload hfinish
  rw [ofMatches_withAssignments] at hline
  exact {
    configArguments := by rw [hassigning, hsplit]
    reads := hparse
    readsMore := by
      rw [hassigning, hsplit]
      exact hline
    others := rfl
    adds := Assignment.Adds.append _ htexts }

end CommandLine

end BrokerClient
