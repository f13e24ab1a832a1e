import BrokerClient.CommandLine.Parser
import BrokerClient.Proofs.Dispatch.Outcomes
import BrokerClient.Proofs.Dispatch.Reports
import BrokerClient.Proofs.Text.Lines
import BrokerClient.Proofs.Text.Trimming

/-!
# The Lines of a Failure

When the handler of a command fails, the dispatcher writes a summary, and if traces are wanted
also the origin and every cause, with a line break behind each. The summary is the description
of the failure, for no failure of a command is described by blanks.

The descriptions have texts in them that come from elsewhere: the target that was asked for,
names of servers, the program, the wording of another error. Nothing is done about line breaks
in them. So there is a line for the summary, for the origin and for each cause exactly if none
of these texts has a line break; each line break makes one line more.

## Main definitions

* `CommandError.texts`, `CommandError.wording`: The texts that a report is worded with.

## Theorems

* `CommandError.lineBreaks_message`: The line breaks of a description are those of its texts.
* `Dispatcher.run_dispatch_failed`: What a dispatcher does when the handler fails.
* `Dispatcher.failure_lines_iff`: How many lines it writes.
* `Commands.summary_of_two_lines`: A summary of two lines.
-/

namespace BrokerClient

namespace CommandError

/-- The texts that a description is worded with. -/
def texts : CommandError → List String
  | resolve (.unknownTarget target) => [target]
  | resolve (.ambiguousTarget target candidates) => target :: candidates
  | resolve (.unknownServer server) => [server]
  | launch program source => [program, source.message]
  | output source => [source.message]
  | serialise reason => [reason]
  | mismatched expected found => [expected, found]

/-- The texts that a report is worded with. -/
def wording (e : CommandError) (traces : Bool) : List String :=
  e.texts ++ if traces then e.causes else []

/-- The line breaks of a description are those of its texts. -/
theorem lineBreaks_message (e : CommandError) :
    lineBreaks e.message = lineBreaks (String.join e.texts) := by
  -- What stands between the texts has no line breaks.
  have hfixed : ∀ text ∈ [": unknown target or server", ": ambiguous target name, matches ", ", ",
      ": unknown server", "failed to launch '", "': ", "failed to write command output: ",
      "failed to serialise command output: ", "handler for '", "' cannot run '", "'"],
      lineBreaks text = 0 := by decide +kernel
  simp only [List.forall_mem_cons] at hfixed
  rcases hfixed with ⟨htarget, hambiguous, hcomma, hserver, hlaunch, hquote, houtput, hserialise,
    hhandler, hcannot, hend, -⟩
  cases e with
  | resolve error =>
    unfold message texts
    cases error with
    | unknownTarget target =>
      unfold ResolveError.message
      simp only [lineBreaks_append, lineBreaks_join_singleton, htarget, Nat.add_zero]
    | unknownServer server =>
      unfold ResolveError.message
      simp only [lineBreaks_append, lineBreaks_join_singleton, hserver, Nat.add_zero]
    | ambiguousTarget target candidates =>
      unfold ResolveError.message
      simp only [lineBreaks_append, lineBreaks_join_cons, lineBreaks_intercalate hcomma,
        hambiguous, Nat.add_zero]
  | launch program source =>
    unfold message texts
    simp only [lineBreaks_append, lineBreaks_join_cons program, lineBreaks_join_singleton, hlaunch,
      hquote, Nat.zero_add, Nat.add_zero]
  | output source =>
    unfold message texts
    simp only [lineBreaks_append, lineBreaks_join_singleton, houtput, Nat.zero_add]
  | serialise reason =>
    unfold message texts
    simp only [lineBreaks_append, lineBreaks_join_singleton, hserialise, Nat.zero_add]
  | mismatched expected found =>
    unfold message texts
    simp only [lineBreaks_append, lineBreaks_join_cons expected, lineBreaks_join_singleton,
      hhandler, hcannot, hend, Nat.zero_add, Nat.add_zero]

/-- Every description has a letter in it. -/
theorem mem_message (e : CommandError) : 'n' ∈ e.message.toList := by
  cases e with
  | resolve error =>
    unfold message
    cases error <;> simp [ResolveError.message]
  | launch | output | serialise | mismatched =>
    unfold message
    simp

/-- The class never takes the place of a description. -/
theorem summaryLine_message (e : CommandError) :
    summaryLine e.kind e.message = "error: " ++ e.message := by
  have hkept : 'n' ∈ Unicode.trim e.message.toList :=
    Unicode.mem_trimWhere (by decide) e.mem_message
  unfold summaryLine
  rw [if_neg]
  intro hblank
  rw [List.isEmpty_iff.mp hblank] at hkept
  cases hkept

/-- The lines of a report are a summary, and with traces an origin and a line for every cause. -/
theorem describe_eq (e : CommandError) (command : String) (traces : Bool) :
    e.describe command traces = ("error: " ++ e.message) ::
      if traces then originLine command e.kind :: e.causes.map causeLine else [] := by
  unfold describe describeFailure
  rw [summaryLine_message]

theorem length_describe (e : CommandError) (command : String) (traces : Bool) :
    (e.describe command traces).length = if traces then 2 + e.causes.length else 1 := by
  rw [describe_eq, List.length_cons]
  split
  · rw [List.length_cons, List.length_map]
    omega
  · rfl

theorem lineBreaks_originLine (command : Command) (e : CommandError) :
    lineBreaks (originLine command.name e.kind) = 0 := by
  have hname : lineBreaks command.name = 0 := by
    cases command <;> simp [Command.name, lineBreaks]
  have hkind : lineBreaks e.kind = 0 := by cases e <;> simp [kind, lineBreaks]
  unfold originLine
  rw [lineBreaks_append, lineBreaks_append, lineBreaks_append, lineBreaks_append, hname, hkind]
  decide

theorem lineBreaks_causeLine (cause : String) :
    lineBreaks (causeLine cause) = lineBreaks cause := by
  unfold causeLine
  rw [lineBreaks_append]
  exact Nat.zero_add _

/-- The line breaks in the lines of a report are those of the texts in it. -/
theorem lineBreaks_describe (e : CommandError) (command : Command) (traces : Bool) :
    lineBreaks (String.join (e.describe command.name traces)) =
      lineBreaks (String.join (e.wording traces)) := by
  have hsummary : lineBreaks ("error: " ++ e.message) = lineBreaks (String.join e.texts) := by
    rw [lineBreaks_append, lineBreaks_message]
    exact Nat.zero_add _
  have hcauses : lineBreaks (String.join (e.causes.map causeLine)) =
      lineBreaks (String.join e.causes) := by
    induction e.causes with
    | nil => rfl
    | cons cause causes ih =>
      rw [List.map_cons, lineBreaks_join_cons, lineBreaks_join_cons, lineBreaks_causeLine, ih]
  unfold wording
  rw [describe_eq, lineBreaks_join_cons, hsummary, String.join_append, lineBreaks_append]
  congr 1
  split
  · rw [lineBreaks_join_cons, lineBreaks_originLine, Nat.zero_add, hcauses]
  · rfl

end CommandError

namespace Dispatcher

/-- Lines that are reported one after the other come to the same as their join. -/
theorem run_reportLines (lines : List String) (c : Context) (m : Machine) :
    ((lines.forM fun line => Task.report (line ++ "\n")).run c).run m =
      (((), { c with errors := (c.errors.writeText (endLines lines)).1 }), m) := by
  induction lines generalizing c with
  | nil =>
    rw [show c.errors.writeText (endLines []) = (c.errors, .ok ()) from c.errors.write_nil]
    rfl
  | cons line lines ih =>
    have hjoin : ((c.errors.writeText (line ++ "\n")).1.writeText (endLines lines)).1 =
        (c.errors.writeText (endLines (line :: lines))).1 := by
      unfold Sink.writeText
      rw [Sink.write_write, ← Utf8.encode_append, ← String.toList_append]
      unfold endLines
      rw [List.map_cons, String.join_cons]
    rw [← hjoin]
    exact ih _

/-- When the handler of a command fails, the dispatcher writes its report and has the result of
    a failure. -/
theorem run_dispatch_failed {d : Dispatcher} {command : Command} {handler : Handler}
    {e : CommandError} {c c' : Context} {m m' : Machine}
    (hhandler : d.handler? command.name = some handler)
    (hfails : ((handler command).run.run c).run (announced command.name m) =
      ((.error e, c'), m')) :
    (((d.dispatch (some command)).run c).run m).1 = (.failure, { c' with
      errors := (c'.errors.writeText (endLines (e.describe command.name d.traces))).1 }) := by
  have hannounce : ((liftM (Action.log .debug CommandResult.logTarget "dispatching"
      [("command", command.name)]) : Task Unit).run c).run m =
        (((), c), announced command.name m) := rfl
  unfold dispatch
  simp only [hhandler]
  -- The events around the report change the machine only.
  unfold handle
  rw [StateT.run_bind, Action.run_bind, hannounce, StateT.run_bind, Action.run_bind, hfails]
  simp only
  rw [StateT.run_bind, Action.run_bind, StateT.run_bind, Action.run_bind]
  unfold reportFailure
  rw [run_reportLines]
  rfl

/-- The report about a failure has a line for the summary, and with traces one for the origin and
    one for each cause, and one more for each line break in the texts it is worded with. So these
    are its lines exactly if none of the texts has a line break. -/
theorem failure_lines_iff {d : Dispatcher} {command : Command} {handler : Handler}
    {e : CommandError} {c c' : Context} {m m' : Machine}
    (hhandler : d.handler? command.name = some handler)
    (hfails : ((handler command).run.run c).run (announced command.name m) =
      ((.error e, c'), m')) :
    let report := e.describe command.name d.traces
    (((d.dispatch (some command)).run c).run m).1 =
        (.failure, { c' with errors := (c'.errors.writeText (endLines report)).1 }) ∧
      report = ("error: " ++ e.message) ::
        (if d.traces then originLine command.name e.kind :: e.causes.map causeLine else []) ∧
      (∃ lines, lines? (endLines report) = some lines ∧
        lines.length = (if d.traces then 2 + e.causes.length else 1) +
          lineBreaks (String.join (e.wording d.traces))) ∧
      (lines? (endLines report) = some (report.map String.toList) ↔
        ∀ text ∈ e.wording d.traces, '\n' ∉ text.toList) := by
  intro report
  refine ⟨run_dispatch_failed hhandler hfails, e.describe_eq command.name d.traces,
    ⟨_, lines?_endLines report, ?_⟩, ?_⟩
  · rw [length_lines_endLines, e.lineBreaks_describe, e.length_describe]
  · rw [lines?_endLines_eq_iff, ← lineBreaks_join_eq_zero_iff, e.lineBreaks_describe,
      lineBreaks_join_eq_zero_iff]

theorem failure_lines_iff_traced :
    let launcher : Launcher := fun _ _ => pure (.error (.system .noEntry))
    let d := Commands.dispatcher launcher true
    let c := Commands.started ⟨"/state", "/share", [], "warn", .compact, 1, "make"⟩ default
    let report :=
      "error: failed to launch 'frob': No such file or directory (os error 2)\n" ++
      "  origin: command 'run' (launch)\n" ++
      "  caused by: No such file or directory (os error 2)\n"
    (((d.dispatch (some (.run [OsText.ofString "frob"]))).run c).run default).1 =
        (.failure, { c with errors := (c.errors.writeText report).1 }) ∧
      ∃ lines, lines? report = some lines ∧ lines.length = 3 := by
  intro launcher d c report
  have hhandler : d.handler? "run" = some (Commands.run launcher) :=
    Commands.handler?_run launcher true
  have hfails : ((Commands.run launcher (.run [OsText.ofString "frob"])).run.run c).run
      (announced "run" default) = ((.error (.launch "frob" (.system .noEntry)), c), _) := rfl
  have hreport : endLines ((CommandError.launch "frob" (.system .noEntry)).describe "run" true) =
      report := by
    rw [CommandError.describe_eq]
    decide +kernel
  rcases @failure_lines_iff d (.run [OsText.ofString "frob"]) _ _ c c default _ hhandler hfails with
    ⟨hrun, -, ⟨lines, hlines, hlength⟩, -⟩
  rw [← hreport]
  refine ⟨hrun, lines, hlines, ?_⟩
  rw [hlength]
  decide +kernel

end Dispatcher

namespace Commands

/-- A line break in the name of a target stays in the summary, which has two lines then. -/
theorem summary_of_two_lines :
    let d := dispatcher (fun _ _ => pure (.error (.system .noEntry))) false
    let command := Command.cookies "a\nb" false
    let c := started ⟨"/state", "/share", [], "warn", .compact, 1, "make"⟩ default
    let summary := "error: a\nb: unknown target or server\n"
    ((CommandLine.parse (["tcf", "cookies", "a\nb"].map OsText.ofString)).toOption.bind
        CommandLine.command) = some command ∧
      (((d.dispatch (some command)).run c).run default).1.2.errors.written =
        Utf8.encode summary.toList ∧
      lines? summary = some ["error: a".toList, "b: unknown target or server".toList] := by
  refine ⟨by decide +kernel, by decide +kernel, by decide +kernel⟩

end Commands

end BrokerClient
