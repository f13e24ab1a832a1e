import BrokerClient.Proofs.CommandLine.Globals

/-!
# The Program of a Run

What stands behind the word `run` is the program that is to be run, with its arguments. None
of it is read as an option, so these arguments may be anything: options of the client, a
double hyphen, bytes that are no text. Only the program itself must not begin with a hyphen,
since options of `run` could stand in its place.

The argument that names the program is positional, and takes everything behind it along.
From there on the reader does not look for options any more, and one more positional
argument is added with every step (`Options.Grammar.readFrom_of_positional`).

The options in front of `run` are read to their end before. A double hyphen among them would
make a positional argument of the word `run`. Without one, and if no option still waits for
a value, the word is taken as a command.

## Theorems

* `Options.Grammar.readFrom_of_positional`: Behind a positional argument that takes the rest
  along, everything is one.
* `Options.Grammar.read_of_takesRest`: All arguments are positional if the first one is.
* `CommandLine.readCommand_run`: What follows `run` is kept as it is.
* `CommandLine.parse_run_keeps_payload`: A program to be run changes no option, and no option
  changes the program.
-/

namespace BrokerClient

/-! ## Positional arguments -/

namespace Options

namespace Grammar

variable {g : Grammar} {calledAs : String} {q : Positional}

/-- What begins with no hyphen is no option. -/
theorem readOption_of_head {argument : OsText} (h : argument.bytes.head? ≠ some 0x2D)
    (p : Progress) : g.readOption calledAs p argument = .ok none := by
  unfold readOption
  split
  · next hbytes => exact absurd (congrArg List.head? hbytes) h
  · rfl
  · next hbytes => exact absurd (congrArg List.head? hbytes) h
  · rfl

/-- One more positional argument, behind others that take it along. -/
theorem step_of_positional (hq : g.positional = some q) (hmany : q.many = true) (m : Matches)
    (values : List OsText) (argument : OsText) :
    g.step calledAs ⟨m, .positional values, true⟩ argument =
      .ok ⟨m, .positional (values ++ [argument]), true⟩ := by
  unfold step
  rw [if_pos rfl]
  unfold readPositional
  rw [hq]
  simp only [hmany, Bool.true_or, if_true]

theorem readFrom_of_positional (hq : g.positional = some q) (hmany : q.many = true) (m : Matches)
    (values arguments : List OsText) :
    g.readFrom calledAs ⟨m, .positional values, true⟩ arguments =
      .ok ⟨⟨m, .positional (values ++ arguments), true⟩, none⟩ := by
  induction arguments generalizing values with
  | nil => rw [readFrom, List.append_nil]
  | cons argument arguments ih =>
    have hcommand : g.commandHere? ⟨m, .positional values, true⟩ argument = none := rfl
    rw [readFrom_cons_of_step hcommand (step_of_positional hq hmany m values argument), ih,
      List.append_assoc, List.singleton_append]

/-- If the first argument is positional and takes the others along, all of them are. -/
theorem read_of_takesRest (hq : g.positional = some q) (hmany : q.many = true)
    (htakes : q.takesRest = true) {first : OsText} (hcommand : g.command? first = none)
    (hfirst : first.bytes.head? ≠ some 0x2D) (rest : List OsText) :
    g.read calledAs (first :: rest) =
      .ok ⟨⟨.empty, .positional (first :: rest), true⟩, none⟩ := by
  have hne : first ≠ OsText.ofString "--" := by
    rintro rfl
    exact hfirst rfl
  have hstep : g.step calledAs ⟨.empty, .nothing, false⟩ first =
      .ok ⟨.empty, .positional [first], true⟩ := by
    unfold step
    rw [if_neg Bool.false_ne_true, if_neg hne, readOption_of_head hfirst]
    change g.readPositional calledAs ⟨.empty, .nothing, false⟩ first = _
    unfold readPositional
    rw [hq]
    simp only [hmany, htakes, Bool.true_or, Bool.or_true, if_true, settle_nothing]
    rfl
  have hhere : g.commandHere? ⟨.empty, .nothing, false⟩ first = none := hcommand
  unfold read
  rw [readFrom_cons_of_step hhere hstep, readFrom_of_positional hq hmany]
  rfl

/-- Positional arguments that need no check are what was found. -/
theorem finish_of_positional (hq : g.positional = some q) (hcheck : ∀ v, q.check v = none)
    {values : List OsText} (hne : values ≠ []) :
    g.finish calledAs ⟨.empty, .positional values, true⟩ = .ok ⟨[], values⟩ := by
  have hchecked : checkValues q.check q.display values = .ok () := by
    have hnone : (values.findSome? fun v => (q.check v).map fun fault => (v, fault)) = none :=
      List.findSome?_eq_none_iff.mpr fun v _ => by rw [hcheck, Option.map_none]
    unfold checkValues
    rw [hnone]
  have hsettle : g.settle calledAs ⟨.empty, .positional values, true⟩ = .ok ⟨[], values⟩ := by
    unfold settle
    simp only [hq, hchecked]
    rfl
  have hvalid : g.validate ⟨[], values⟩ = .ok () := by
    have hnonempty : values.isEmpty = false := List.isEmpty_eq_false_iff.mpr hne
    unfold validate
    rw [show g.conflict? ⟨[], values⟩ = none from rfl, hq]
    simp only [hnonempty, Bool.and_false, Bool.false_eq_true, if_false]
  unfold finish
  rw [hsettle]
  simp only [bind, Except.bind, hvalid]
  rfl

end Grammar

end Options

/-! ## The command line -/

namespace CommandLine

open Options (Grammar Matches Progress)
open Options.Grammar (Reads)

/-- What follows `run` is kept as it is, whatever stands behind the program. -/
theorem readCommand_run (calledAs : Option String) {first : OsText}
    (hfirst : first.bytes.head? ≠ some 0x2D) (rest : List OsText) :
    readCommand calledAs runGrammar (first :: rest) = .ok ⟨[], first :: rest⟩ := by
  unfold readCommand
  simp only
  rw [Grammar.read_of_takesRest rfl rfl rfl rfl hfirst]
  exact Grammar.finish_of_positional rfl (fun _ => rfl) (List.cons_ne_nil _ _)

/-- If options are accepted without a command, and there is no double hyphen among them, they
    are also accepted in front of `run` with a program and its arguments. The program must not
    begin with a hyphen. Then it is kept with all of its arguments, byte for byte, and the
    options say what they said without it. -/
theorem parse_run_keeps_payload {program : OsText} {options : List OsText} {line : CommandLine}
    (hoptions : parse (program :: options) = .ok line) (hcommand : line.command = none)
    (hhyphens : OsText.ofString "--" ∉ options) {first : OsText}
    (hfirst : first.bytes.head? ≠ some 0x2D) (rest : List OsText) :
    parse (program :: (options ++ OsText.ofString "run" :: first :: rest)) =
      .ok { line with command := some (.run (first :: rest)) } := by
  rcases exists_reads_of_parse_none hoptions hcommand with ⟨p, m, hreads, hfinish, rfl⟩
  have htrailing : p.trailing = false := hreads.trailing_of_notMem isPlain_grammar hhyphens
  have hawaiting : Grammar.isAwaiting p = false := by
    rcases exists_of_bind_eq_ok hfinish with ⟨settled, hsettle, -⟩
    exact Grammar.isAwaiting_of_settle hsettle
  have hword : grammar.commandHere? p (OsText.ofString "run") = some "run" := by
    unfold Grammar.commandHere?
    rw [htrailing, hawaiting]
    rfl
  have hrun :
      parseCommand (calledAs? program) "run" (first :: rest) = .ok (.run (first :: rest)) := by
    unfold parseCommand
    rw [if_pos rfl, readCommand_run _ hfirst]
    rfl
  exact parse_of_reads hreads hword hrun hfinish

theorem parse_run_keeps_payload_lookalikes :
    let options := ["-e", "A=1", "--debug"].map OsText.ofString
    let rest := ["--", "--help", "--make-jobserver", "-e", "--state-dir"].map OsText.ofString ++
      [⟨[0xFF]⟩]
    parse (OsText.ofString "tcf" :: (options ++ OsText.ofString "run" ::
        OsText.ofString "make" :: rest)) =
      .ok ⟨true, false, none, false, ["A=1"], some (.run (OsText.ofString "make" :: rest))⟩ := by
  intro options rest
  have hoptions : parse (OsText.ofString "tcf" :: options) =
      .ok ⟨true, false, none, false, ["A=1"], none⟩ := by decide +kernel
  exact parse_run_keeps_payload hoptions rfl (by decide) (by decide) rest

end CommandLine

end BrokerClient
