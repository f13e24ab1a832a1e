import BrokerClient.Proofs.Options.Entering
import Mathlib.Data.List.Find

/-!
# Reading Options

The arguments in front of a command are read one after the other, and every
one of them enters an option or is a value (`step_cases`). A run of the reader
over such arguments is an inductive relation, so that what one step does can be
carried along a run by induction.

A double hyphen is met in no run that comes to a command, and what a run has
settled stays settled.

## Main definitions

* `Options.Grammar.Reads`: Reads arguments, none of which asks for a command.
* `Options.Grammar.IsHarmless`: Whether an option is in no conflict.

## Theorems

* `Options.Grammar.Reads.readFrom_append`: A run can be cut off the front.
* `Options.Grammar.exists_reads`: The arguments in front of a command are a run.
* `Options.Grammar.reads_of_command_eq_none`: If no command is met, all arguments are one.
* `Options.Grammar.reads_of_commands_eq_nil`: So it is without commands.
* `Options.Grammar.Reads.trailing_eq_false`: No double hyphen in front of a command.
* `Options.Grammar.Reads.trailing_of_notMem`: Nothing else ends the options.
* `Options.Grammar.Reads.settled_mono`: What is settled stays.
* `Options.Grammar.conflict?_append`: Harmless options add no conflict.
-/

namespace BrokerClient

namespace Options

namespace Grammar

variable {g : Grammar} {calledAs : String}

/-! ## Runs -/

/-- Reads arguments, none of which asks for a command. -/
inductive Reads (g : Grammar) (calledAs : String) : Progress → List OsText → Progress → Prop
  | nil (p : Progress) : Reads g calledAs p [] p
  | cons {p q r : Progress} {argument : OsText} {rest : List OsText}
    (command : g.commandHere? p argument = none) (step : g.step calledAs p argument = .ok q)
    (reads : Reads g calledAs q rest r) : Reads g calledAs p (argument :: rest) r

theorem readFrom_cons_of_step {p q : Progress} {argument : OsText}
    (command : g.commandHere? p argument = none) (step : g.step calledAs p argument = .ok q)
    (rest : List OsText) :
    g.readFrom calledAs p (argument :: rest) = g.readFrom calledAs q rest := by
  rw [readFrom, command, step]
  rfl

theorem readFrom_cons_of_error {p : Progress} {argument : OsText} {e : Error}
    (command : g.commandHere? p argument = none) (step : g.step calledAs p argument = .error e)
    (rest : List OsText) : g.readFrom calledAs p (argument :: rest) = .error e := by
  rw [readFrom, command, step]
  rfl

theorem readFrom_cons_of_command {p : Progress} {argument : OsText} {name : String}
    (command : g.commandHere? p argument = some name) (rest : List OsText) :
    g.readFrom calledAs p (argument :: rest) = .ok ⟨p, some (name, rest)⟩ := by
  rw [readFrom, command]

namespace Reads

theorem readFrom_append {p q : Progress} {front : List OsText} (h : Reads g calledAs p front q)
    (rest : List OsText) :
    g.readFrom calledAs p (front ++ rest) = g.readFrom calledAs q rest := by
  induction h with
  | nil p => rfl
  | cons command step _ ih => rw [List.cons_append, readFrom_cons_of_step command step, ih]

theorem append {p q r : Progress} {front back : List OsText} (h : Reads g calledAs p front q)
    (h' : Reads g calledAs q back r) : Reads g calledAs p (front ++ back) r := by
  induction h with
  | nil p => exact h'
  | cons command step _ ih => exact .cons command step (ih h')

theorem exists_of_append {p r : Progress} {front back : List OsText}
    (h : Reads g calledAs p (front ++ back) r) :
    ∃ q, Reads g calledAs p front q ∧ Reads g calledAs q back r := by
  induction front generalizing p with
  | nil => exact ⟨p, .nil p, h⟩
  | cons argument front ih =>
    cases h with
    | cons command step reads =>
      rcases ih reads with ⟨q, hfront, hback⟩
      exact ⟨q, .cons command step hfront, hback⟩

/-- Behind a double hyphen nothing is read any more. So none was met if the
    reader still looks for options. -/
theorem trailing_eq_false (hg : g.IsPlain) {p q : Progress} {arguments : List OsText}
    (h : Reads g calledAs p arguments q) (hq : q.trailing = false) : p.trailing = false := by
  cases h with
  | nil => exact hq
  | cons _ step _ => exact Bool.eq_false_iff.mpr fun ht => step_of_trailing hg ht step

/-- Without a double hyphen the reader goes on looking for options. -/
theorem trailing_of_notMem (hg : g.IsPlain) {p q : Progress} {arguments : List OsText}
    (h : Reads g calledAs p arguments q) (hno : OsText.ofString "--" ∉ arguments) :
    q.trailing = p.trailing := by
  induction h with
  | nil p => rfl
  | cons _ step _ ih =>
    rcases not_or.mp (mt List.mem_cons.mpr hno) with ⟨hne, hrest⟩
    rw [ih hrest, trailing_of_step hg (Ne.symm hne) step]

end Reads

/-- The arguments in front of a command are read without it. -/
theorem exists_reads {p q : Progress} {arguments : List OsText} {name : String}
    {rest : List OsText} (h : g.readFrom calledAs p arguments = .ok ⟨q, some (name, rest)⟩) :
    ∃ front word, arguments = front ++ word :: rest ∧ Reads g calledAs p front q ∧
      g.commandHere? q word = some name := by
  induction arguments generalizing p with
  | nil =>
    rw [readFrom] at h
    cases h
  | cons argument arguments ih =>
    rw [readFrom] at h
    split at h
    · next command =>
      cases h
      exact ⟨[], argument, rfl, .nil q, command⟩
    · next command =>
      rcases exists_of_bind_eq_ok h with ⟨p₁, step, h⟩
      rcases ih h with ⟨front, word, rfl, reads, hword⟩
      exact ⟨argument :: front, word, rfl, .cons command step reads, hword⟩

/-- If no command is met, all arguments are read. -/
theorem reads_of_command_eq_none {p q : Progress} {arguments : List OsText}
    (h : g.readFrom calledAs p arguments = .ok ⟨q, none⟩) : Reads g calledAs p arguments q := by
  induction arguments generalizing p with
  | nil =>
    rw [readFrom] at h
    cases h
    exact .nil q
  | cons argument arguments ih =>
    rw [readFrom] at h
    split at h
    · cases h
    · next command =>
      rcases exists_of_bind_eq_ok h with ⟨p₁, step, h⟩
      exact .cons command step (ih h)

theorem commandHere?_of_commands_eq_nil (hg : g.commands = []) (p : Progress) (word : OsText) :
    g.commandHere? p word = none := by
  unfold commandHere? command?
  rw [hg]
  exact ite_self _

/-- Without commands all arguments are read. -/
theorem reads_of_commands_eq_nil (hg : g.commands = []) {p : Progress} {arguments : List OsText}
    {outcome : Outcome} (h : g.readFrom calledAs p arguments = .ok outcome) :
    Reads g calledAs p arguments outcome.progress := by
  rcases outcome with ⟨q, _ | ⟨name, rest⟩⟩
  · exact reads_of_command_eq_none h
  · rcases exists_reads h with ⟨front, word, -, -, hword⟩
    rw [commandHere?_of_commands_eq_nil hg] at hword
    cases hword

theorem trailing_of_commandHere? {p : Progress} {word : OsText} {name : String}
    (h : g.commandHere? p word = some name) : p.trailing = false := by
  unfold commandHere? at h
  cases ht : p.trailing with
  | false => rfl
  | true =>
    rw [ht, Bool.true_or, if_pos rfl] at h
    cases h

/-! ## What stays -/

theorem settled_prefix_of_settle (hg : g.IsPlain) {p : Progress} {m : Matches}
    (h : g.settle calledAs p = .ok m) : p.settled.found <+: m.found := by
  unfold settle at h
  split at h
  · cases h
    exact List.prefix_refl _
  · cases h
  · rw [(settleOption_eq_ok_iff.mp h).2.2.2]
    exact List.prefix_append _ _
  · rw [hg.positional] at h
    cases h
    exact List.prefix_refl _

theorem settled_prefix_of_enter (hg : g.IsPlain) {p p' : Progress} {s : Spec}
    {inline : Option OsText} (h : g.enter calledAs p s inline = .ok p') :
    p.settled.found <+: p'.settled.found := by
  rcases exists_settle_of_enter h with ⟨m, hm⟩
  refine (settled_prefix_of_settle hg hm).trans ?_
  cases hvalues : valuesHere s inline with
  | some values =>
    rw [enter_settles hm hvalues] at h
    rcases exists_of_map_eq_ok h with ⟨m', hm', rfl⟩
    rw [(settleOption_eq_ok_iff.mp hm').2.2.2]
    exact List.prefix_append _ _
  | none =>
    rw [enter_waits hm hvalues] at h
    cases h
    exact List.prefix_refl _

theorem settled_prefix_of_step (hg : g.IsPlain) {p p' : Progress} {argument : OsText}
    (h : g.step calledAs p argument = .ok p') : p.settled.found <+: p'.settled.found := by
  by_cases ha : argument = OsText.ofString "--"
  -- A double hyphen settles nothing.
  · have ht : p.trailing = false := Bool.eq_false_iff.mpr fun ht => step_of_trailing hg ht h
    rw [ha, step_doubleHyphen ht] at h
    cases h
    exact List.prefix_refl _
  · rcases step_cases hg ha h with ⟨s, inline, -, -, henter, -⟩ | ⟨s, -, rfl, -⟩
    · exact settled_prefix_of_enter hg henter
    · exact List.prefix_refl _

/-- What is settled stays settled. -/
theorem Reads.settled_mono (hg : g.IsPlain) {p q : Progress} {arguments : List OsText}
    (h : Reads g calledAs p arguments q) : p.settled.found <+: q.settled.found := by
  induction h with
  | nil p => exact List.prefix_refl _
  | cons _ step _ ih => exact (settled_prefix_of_step hg step).trans ih

/-! ## The whole -/

/-- The other side of a conflict, if an option is in one. -/
def partner? (g : Grammar) (m : Matches) (s : Spec) : Option Spec :=
  g.options.find? fun t =>
    m.has t.long && (s.excludes = some t.long || t.excludes = some s.long)

theorem conflict?_eq_findSome? (m : Matches) :
    g.conflict? m = m.found.findSome? fun f =>
      (g.long? f.1.toList).bind fun s => (g.partner? m s).map fun t => (s, t) := by
  unfold conflict?
  refine congrArg (List.findSome? · m.found) (funext fun f => ?_)
  cases g.long? f.1.toList with
  | none => rfl
  | some s =>
    change (g.partner? m s).bind _ = (g.partner? m s).map _
    cases g.partner? m s <;> rfl

/-- Whether a long name is in no conflict: no option excludes it, and its own
    option excludes none. -/
def IsHarmless (g : Grammar) (long : String) : Prop :=
  ∀ s ∈ g.options, s.excludes ≠ some long ∧ (s.long = long → s.excludes = none)

theorem partner?_eq_none {m : Matches} {s : Spec} (hs : s ∈ g.options)
    (h : g.IsHarmless s.long) : g.partner? m s = none := by
  refine List.find?_eq_none.mpr fun t ht hconflict => ?_
  rw [(h s hs).2 rfl, decide_eq_false (h t ht).1,
    decide_eq_false (Option.some_ne_none t.long).symm, Bool.or_false, Bool.and_false] at hconflict
  cases hconflict

theorem partner?_append {m : Matches} {more : List (String × List OsText)}
    (h : ∀ f ∈ more, g.IsHarmless f.1) {s : Spec} (hs : s ∈ g.options) :
    g.partner? { m with found := m.found ++ more } s = g.partner? m s := by
  refine List.find?_congr fun t ht => ?_
  have hhas : ({ m with found := m.found ++ more } : Matches).has t.long =
      (m.has t.long || more.any fun f => f.1 = t.long) := List.any_append
  rw [hhas]
  cases hmore : more.any fun f => f.1 = t.long with
  | false => rw [Bool.or_false]
  -- An option that may have been added is in no conflict anyway.
  | true =>
    rcases List.any_eq_true.mp hmore with ⟨f, hf, hlong⟩
    have hlong := of_decide_eq_true hlong
    rw [(h f hf t ht).2 hlong.symm, ← hlong, decide_eq_false (h f hf s hs).1,
      decide_eq_false (Option.some_ne_none s.long).symm, Bool.or_false, Bool.and_false,
      Bool.and_false]

/-- Options that are harmless add no conflict to those that are there. -/
theorem conflict?_append {m : Matches} {more : List (String × List OsText)}
    (h : ∀ f ∈ more, g.IsHarmless f.1) :
    g.conflict? { m with found := m.found ++ more } = g.conflict? m := by
  have hadded : ∀ f ∈ more, ((g.long? f.1.toList).bind fun s =>
      (g.partner? m s).map fun t => (s, t)) = none := by
    intro f hf
    cases hs : g.long? f.1.toList with
    | none => rfl
    | some s =>
      rcases mem_options_of_long? hs with ⟨hmem, hlong⟩
      have hharmless := h f hf
      rw [← String.toList_injective hlong] at hharmless
      simp only [Option.bind_some, partner?_eq_none hmem hharmless, Option.map_none]
  have hsame : ∀ f : String × List OsText, ((g.long? f.1.toList).bind fun s =>
      (g.partner? { m with found := m.found ++ more } s).map fun t => (s, t)) =
      (g.long? f.1.toList).bind fun s => (g.partner? m s).map fun t => (s, t) := by
    intro f
    cases hs : g.long? f.1.toList with
    | none => rfl
    | some s => simp only [Option.bind_some, partner?_append h (mem_options_of_long? hs).1]
  rw [conflict?_eq_findSome?, conflict?_eq_findSome?]
  simp only [hsame]
  rw [List.findSome?_append, List.findSome?_eq_none_iff.mpr hadded, Option.or_none]

/-- Options do not exclude each other if none that excludes another is
    there. -/
theorem conflict?_eq_none {m : Matches}
    (h : ∀ s ∈ g.options, s.excludes.isSome = true → m.has s.long = false) :
    g.conflict? m = none := by
  -- Both sides of a conflict are among the options that are there.
  have hexcludes : ∀ s ∈ g.options, m.has s.long = true → s.excludes = none := by
    intro s hs hhas
    cases hsome : s.excludes with
    | none => rfl
    | some other =>
      rw [h s hs (by rw [hsome]; rfl)] at hhas
      cases hhas
  refine List.findSome?_eq_none_iff.mpr fun f hf => ?_
  cases hs : g.long? f.1.toList with
  | none => rfl
  | some s =>
    rcases mem_options_of_long? hs with ⟨hmem, hlong⟩
    have hhas : m.has s.long = true :=
      List.any_eq_true.mpr ⟨f, hf, decide_eq_true (String.toList_injective hlong).symm⟩
    have hnone : (g.options.find? fun t =>
        m.has t.long && (s.excludes = some t.long || t.excludes = some s.long)) = none := by
      refine List.find?_eq_none.mpr fun t ht hconflict => ?_
      rw [Bool.and_eq_true, hexcludes s hmem hhas] at hconflict
      rw [hexcludes t ht hconflict.1] at hconflict
      cases hconflict.2
    simp only [bind, Option.bind, hnone]

/-- So such options are accepted, if there are no positional arguments. -/
theorem validate_eq_ok (hg : g.IsPlain) {m : Matches}
    (h : ∀ s ∈ g.options, s.excludes.isSome = true → m.has s.long = false) :
    g.validate m = .ok () := by
  unfold validate
  rw [conflict?_eq_none h, hg.positional]

end Grammar

end Options

end BrokerClient
