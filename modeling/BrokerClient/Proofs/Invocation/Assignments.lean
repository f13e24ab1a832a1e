import BrokerClient.Proofs.CommandLine.Assignments
import BrokerClient.Proofs.Config.Reading
import BrokerClient.Proofs.Dispatch.Reading
import BrokerClient.Proofs.Handoff.Relaunching
import BrokerClient.Proofs.Invocation.Preparation
import Mathlib.Control.Monad.Basic

/-!
# Assignments and the Configuration

Assignments are for the programs that are started, and make is one of them. What
they mean for the configuration is different in the two processes of a handoff.

The first process loads its configuration before it applies them, so they cannot
change it. Only the report of configuration files is made up later, and asks for
three variables. Commands other than that which runs a program ask for no others,
so their whole run is the same.

The second process finds the assignments in its environment before it loads
anything. Its configuration is the same as long as no assignment is to a variable
that configuration is read from, and it is another one as soon as a setting is
assigned.

## Main definitions

* `Invocation.configuration`: The configuration of a run.
* `Invocation.reportedFiles`: The configuration files that a run reports.
* `Invocation.handedOver`: The machine that make finds in the place of a run.
* `Invocation.Restarts`: The process that make starts then.
* `Invocation.restarted`: Its machine, if make has passed on everything.

## Theorems

* `Invocation.prepare_of_adds`: The steps before the session, with more assignments.
* `Invocation.report_of_adds`: Commands that run no program, with more assignments.
* `Controller.run_delegate_replacing`: Handing over sets no variable.
* `Invocation.environment_handedOver`: Make finds the environment with the assignments.
* `Invocation.assignments_keep_configuration`: What assignments change in both processes.
* `Invocation.assignments_reach_secondProcess`: A setting that is assigned counts in the second
  one.
-/

namespace BrokerClient

open CommandLine (AddsAssignments)
open Machine (Alike)

variable {s : Surroundings} {arguments arguments' : List OsText} {line line' : CommandLine}
  {m m' : Machine} {asked : OsText → Bool} {added : List Assignment}

namespace Invocation

/-- The configuration of a run, or why it ends before its command. -/
def configuration (s : Surroundings) (arguments : List OsText) (m : Machine) :
    Except InvocationError Config :=
  ((prepare s arguments).run.run m).1.map Plan.config

/-- The configuration files that a run reports, or why it ends before its command.
    They are looked for when the session has begun. -/
def reportedFiles (s : Surroundings) (arguments : List OsText) (m : Machine) :
    Except InvocationError (List Path) :=
  (configuration s arguments m).map fun config =>
    Discovery.files ((Session.start config).run ((prepare s arguments).run.run m).2).2
      (ConfigArguments.split arguments).configArguments

theorem configuration_of_prepare_error {e : InvocationError} {m₁ : Machine}
    (h : (prepare s arguments).run.run m = (.error e, m₁)) :
    configuration s arguments m = .error e := by
  unfold configuration
  rw [h]
  rfl

/-- A run with a configuration has met nothing in its way. -/
theorem exists_ready_of_configuration {config : Config}
    (hparse : CommandLine.parse (ConfigArguments.split arguments).withoutConfig = .ok line)
    (h : configuration s arguments m = .ok config) :
    ∃ assignments, Ready s arguments line m config assignments := by
  by_cases hready : ∃ config assignments, Ready s arguments line m config assignments
  · rcases hready with ⟨config', assignments, hready⟩
    rcases run_prepare_ok hparse hready with ⟨events, logger, hprepare⟩
    unfold configuration at h
    rw [hprepare] at h
    cases Except.ok.inj h
    exact ⟨assignments, hready⟩
  · rcases run_prepare_error hparse hready with ⟨e, environment, events, hprepare⟩
    rw [configuration_of_prepare_error hprepare] at h
    cases h

/-! ## Before the session -/

/-- The steps before the session, on machines that look alike and with more
    assignments, none of which is to a variable that is asked for. -/
theorem prepare_of_adds
    (hparse : CommandLine.parse (ConfigArguments.split arguments).withoutConfig = .ok line)
    (hparse' : CommandLine.parse (ConfigArguments.split arguments').withoutConfig = .ok line')
    (hdebug : line'.debug = line.debug)
    (hadds : Assignment.Adds line.environment line'.environment added)
    (halike : m.Alike asked m') (hlogger : m'.logger = m.logger)
    (hload : s.load m' (ConfigArguments.split arguments').configArguments =
      s.load m (ConfigArguments.split arguments).configArguments)
    (hunasked : ∀ a ∈ added, asked (.ofChars a.key) = false) :
    configuration s arguments' m' = configuration s arguments m ∧
      ((prepare s arguments).run.run m).2.Alike asked ((prepare s arguments').run.run m').2 := by
  unfold configuration
  cases hconfig : s.load m (ConfigArguments.split arguments).configArguments with
  -- Nothing is assigned when loading fails, or when an assignment is malformed.
  | error faults =>
    rw [run_prepare_of_faults hparse hconfig, run_prepare_of_faults hparse' (hload.trans hconfig)]
    exact ⟨rfl, halike⟩
  | ok config =>
    rw [run_prepare_of_loads hparse hconfig, run_prepare_of_loads hparse' (hload.trans hconfig)]
    cases hold : line.environment.mapM Assignment.parse with
    | error e =>
      rw [run_bind_error (run_ofAction_error _ (Assignment.run_inject_error hold m)),
        run_bind_error (run_ofAction_error _
          (Assignment.run_inject_error (hadds.mapM_error hold) m'))]
      exact ⟨rfl, halike⟩
    | ok assignments =>
      rcases @Assignment.Adds.restrict_applyAll asked _ _ _ hadds _ hold with ⟨all, hall, hrestrict⟩
      rcases Assignment.run_inject_ok hold m with ⟨events, hinject⟩
      rcases Assignment.run_inject_ok hall m' with ⟨events', hinject'⟩
      have hafter : ∀ logger, (m.assigned assignments events logger).Alike asked
          (m'.assigned all events' logger) := fun _ =>
        { halike with environment := hrestrict _ _ hunasked halike.environment }
      rw [run_bind_ok (run_ofAction_ok _ hinject), run_bind_ok (run_ofAction_ok _ hinject')]
      -- The logger is settled by the configuration, which is the same.
      have hunsettled : (m'.assigned all events' m'.logger).logger =
          (m.assigned assignments events m.logger).logger := hlogger
      rcases run_settleLogger_of_logger config line.debug hunsettled with
        ⟨result, logger, hsettle, hsettle'⟩
      rw [hdebug]
      cases result with
      | ok u =>
        rw [run_bind_ok (run_ofAction_ok _ hsettle), run_bind_ok (run_ofAction_ok _ hsettle')]
        exact ⟨rfl, hafter logger⟩
      | error flaw =>
        rw [run_bind_error (run_ofAction_error _ hsettle),
          run_bind_error (run_ofAction_error _ hsettle')]
        exact ⟨rfl, hafter logger⟩

theorem load_of_addsAssignments (h : AddsAssignments arguments arguments' line line' added)
    (s : Surroundings) (m : Machine) :
    s.load m (ConfigArguments.split arguments').configArguments =
      s.load m (ConfigArguments.split arguments).configArguments := by
  rw [h.configArguments]

/-- In one process the configuration is the same, whatever the assignments are
    to: it is loaded before they are applied. -/
theorem configuration_of_adds (h : AddsAssignments arguments arguments' line line' added)
    (s : Surroundings) (m : Machine) :
    configuration s arguments' m = configuration s arguments m :=
  (prepare_of_adds h.reads h.readsMore h.debug h.adds (.refl (fun _ => false) m) rfl
    (load_of_addsAssignments h s m) fun _ _ => rfl).1

theorem reportedFiles_of_alike
    (hconfiguration : configuration s arguments' m' = configuration s arguments m)
    (harguments : (ConfigArguments.split arguments').configArguments =
      (ConfigArguments.split arguments).configArguments)
    (halike : ((prepare s arguments).run.run m).2.Alike Discovery.asksFor
      ((prepare s arguments').run.run m').2) :
    reportedFiles s arguments' m' = reportedFiles s arguments m := by
  unfold reportedFiles
  rw [hconfiguration, harguments]
  cases configuration s arguments m with
  | error e => rfl
  | ok config =>
    -- The session asks for no variable, so it takes away the same files.
    have hstarted := ((Session.respects_start config).alike _ _ halike).2
    exact congrArg Except.ok (Discovery.files_of_alike hstarted _)

/-- The configuration files are looked for when the assignments are applied, with
    three variables. -/
theorem reportedFiles_of_adds (h : AddsAssignments arguments arguments' line line' added)
    (hunasked : ∀ a ∈ added, Discovery.asksFor (.ofChars a.key) = false) (s : Surroundings)
    (m : Machine) : reportedFiles s arguments' m = reportedFiles s arguments m := by
  have halike := (prepare_of_adds h.reads h.readsMore h.debug h.adds
    (.refl Discovery.asksFor m) rfl (load_of_addsAssignments h s m) hunasked).2
  exact reportedFiles_of_alike (configuration_of_adds h s m) h.configArguments halike

/-! ## The whole run -/

theorem report_of_error {e : InvocationError} (h : configuration s arguments m = .error e)
    (output errors : Sink) :
    ((run s arguments output errors).run m).1 = reportError output errors e := by
  rcases hprepare : (prepare s arguments).run.run m with ⟨_ | p, m₁⟩
  · unfold configuration at h
    rw [hprepare] at h
    cases Except.error.inj h
    refine report_of_steps_error ?_
    unfold steps
    rw [run_bind_error hprepare]
  · unfold configuration at h
    rw [hprepare] at h
    cases h

/-- A command that runs no program is carried out by this process. -/
theorem run_proceed_of_command {p : Plan} (hcommand : ∀ words, p.line.command ≠ some (.run words))
    (session : Session) (output errors : Sink) (m : Machine) :
    (proceed s p session output errors).run.run m =
      (.ok ((work s p session none output errors).run m).1,
        ((work s p session none output errors).run m).2) := by
  have hsettle : settleHandoff s p = pure .direct := by
    unfold settleHandoff
    split
    · next words hrun => exact absurd hrun (hcommand words)
    · rfl
  have hdirect : (settleHandoff s p).run.run m = (.ok .direct, m) := by
    rw [hsettle]
    rfl
  unfold proceed
  rw [run_bind_ok hdirect]
  exact run_act (work s p session none output errors) m

theorem ready_of_adds (h : AddsAssignments arguments arguments' line line' added) {config : Config}
    {assignments all : List Assignment} (hready : Ready s arguments line m config assignments)
    (hall : line'.environment.mapM Assignment.parse = .ok all) :
    Ready s arguments' line' m config all where
  loads := by
    rw [h.configArguments]
    exact hready.loads
  assigns := hall
  logs := by
    rw [h.debug]
    exact hready.logs

/-- Commands that run no program ask for the variables that configuration files
    are looked for with, and for no others. -/
theorem report_of_adds (h : AddsAssignments arguments arguments' line line' added)
    (hcommand : ∀ words, line.command ≠ some (.run words))
    (hunasked : ∀ a ∈ added, Discovery.asksFor (.ofChars a.key) = false) (s : Surroundings)
    (output errors : Sink) (m : Machine) :
    ((run s arguments' output errors).run m).1 = ((run s arguments output errors).run m).1 := by
  by_cases hready : ∃ config assignments, Ready s arguments line m config assignments
  · rcases hready with ⟨config, assignments, hready⟩
    rcases h.adds.restrict_applyAll hready.assigns with ⟨all, hall, hrestrict⟩
    rcases run_steps_of_ready h.reads hready output errors with ⟨events, logger, hsteps⟩
    rcases run_steps_of_ready h.readsMore (ready_of_adds h hready hall) output errors with
      ⟨events', logger', hsteps'⟩
    have halike : (m.assigned assignments events logger).Alike Discovery.asksFor
        (m.assigned all events' logger') :=
      { Alike.refl Discovery.asksFor m with environment := hrestrict _ _ hunasked rfl }
    -- The session is the same, and so is everything that the command does with it.
    rcases (Session.respects_start config).alike _ _ halike with ⟨hsession, hstarted⟩
    have hcommand' : ∀ words, line'.command ≠ some (.run words) := by
      rw [h.command]
      exact hcommand
    rw [run_proceed_of_command hcommand] at hsteps
    rw [run_proceed_of_command hcommand', hsession] at hsteps'
    rw [report_of_steps (congrArg Prod.fst hsteps), report_of_steps (congrArg Prod.fst hsteps'),
      work_eq_carryOut, work_eq_carryOut, report_carryOut, report_carryOut]
    unfold planned
    simp only
    rw [h.command, h.traces, h.configArguments, Discovery.files_of_alike hstarted,
      ((Commands.respects_dispatcher s.launcher line.traces hcommand _).alike _ _ hstarted).1]
  -- A run that ends early ends for the same reason.
  · rcases run_prepare_error h.reads hready with ⟨e, environment, events, hprepare⟩
    have hconfiguration := configuration_of_prepare_error hprepare
    rw [report_of_error hconfiguration,
      report_of_error ((configuration_of_adds h s m).trans hconfiguration)]

end Invocation

/-! ## The second process -/

/-- The same surroundings, where a process that asks for it goes on as another
    program at once. -/
def Surroundings.replacing (s : Surroundings) : Surroundings :=
  { s with replacer := fun _ _ => return none }

/-- Handing over sets no variable, and the process is gone if it succeeds. -/
theorem Controller.run_delegate_replacing (c : Controller) (s : Surroundings) (r : Relaunch)
    (m : Machine) :
    ∃ result m', (c.delegate s.replacing.replacer r).run m = (result, m') ∧
      m'.environment = m.environment ∧ ∀ a, result = .ok a → a = .replaced := by
  rcases run_writeHandoff_cases c r m with ⟨e, nextName, answers, hwrite, -⟩ |
    ⟨path, place, name, text, -, -, -, hwrite⟩
  · exact ⟨_, _, run_delegate_of_error hwrite, rfl, fun _ h => by cases h⟩
  · exact ⟨_, _, run_delegate_of_replaced hwrite rfl, rfl, fun _ h => (Except.ok.inj h).symm⟩

namespace Invocation

/-- The machine that make finds when it takes the place of a run. -/
def handedOver (s : Surroundings) (arguments : List OsText) (output errors : Sink) (m : Machine) :
    Machine :=
  ((run s.replacing arguments output errors).run m).2

theorem environment_proceed {p : Plan} (hhands : p.line.HandsOver) (session : Session)
    (output errors : Sink) (m : Machine) :
    ((proceed s.replacing p session output errors).run.run m).2.environment = m.environment := by
  rcases hhands with ⟨⟨words, hrun⟩, hunset⟩
  have htoken : p.token = .unset := hunset
  rcases Controller.run_delegate_replacing (controller m p.config) s p.relaunch m with
    ⟨result, m', hdelegate, henvironment, hreplaced⟩
  have hget : (get : Step Machine).run.run m = (.ok m, m) := rfl
  have hsettle : (settleHandoff s.replacing p).run.run m =
      (result.mapError .handoff, m') := by
    unfold settleHandoff
    rw [hrun, htoken]
    simp only
    rw [run_bind_ok hget, run_ofAction]
    exact congrArg (fun r => (r.1.mapError InvocationError.handoff, r.2)) hdelegate
  unfold proceed
  cases result with
  | error e =>
    rw [run_bind_error hsettle]
    exact henvironment
  | ok a =>
    rw [hreplaced a rfl] at hsettle
    rw [run_bind_ok hsettle]
    exact henvironment

/-- Make finds the environment with the assignments. -/
theorem environment_handedOver {config : Config} {assignments : List Assignment}
    (hparse : CommandLine.parse (ConfigArguments.split arguments).withoutConfig = .ok line)
    (hhands : line.HandsOver) (hready : Ready s arguments line m config assignments)
    (output errors : Sink) :
    (handedOver s arguments output errors m).environment =
      Assignment.applyAll m.environment assignments := by
  have hready' : Ready s.replacing arguments line m config assignments :=
    ⟨hready.loads, hready.assigns, hready.logs⟩
  rcases run_steps_of_ready hparse hready' output errors with ⟨events, logger, hsteps⟩
  -- Neither the session nor the handover sets a variable.
  unfold handedOver
  rw [machine_run, hsteps, environment_proceed hhands,
    (@Session.respects_start (fun _ => false) config).environment]
  rfl

end Invocation

namespace Invocation

/-- A process that make starts when it has taken the place of a run: it has the
    command line from the handoff file, and of the variables that configuration is
    read from, make has passed on those that it found and added no others. -/
structure Restarts (s : Surroundings) (arguments : List OsText) (output errors : Sink)
    (m : Machine) (again : List OsText) (n : Machine) : Prop where
  commandLine : ∃ handoff texts,
    (Relaunch.ofArguments arguments).commandLine handoff = .ok texts ∧
      again = texts.map OsText.ofString
  environment : n.environment.restrict Config.asksFor =
    (handedOver s arguments output errors m).environment.restrict Config.asksFor
  logger : n.logger = none

/-- The machine of such a process, if make has passed on all that it found. -/
def restarted (s : Surroundings) (arguments : List OsText) (output errors : Sink) (m : Machine) :
    Machine :=
  { m with environment := (handedOver s arguments output errors m).environment, logger := none }

theorem restarts_restarted {handoff : Path} {texts : List String}
    (h : (Relaunch.ofArguments arguments).commandLine handoff = .ok texts) (s : Surroundings)
    (output errors : Sink) (m : Machine) :
    Restarts s arguments output errors m (texts.map OsText.ofString)
      (restarted s arguments output errors m) :=
  ⟨⟨handoff, texts, h, rfl⟩, rfl, rfl⟩

/-- Such machines differ in variables only. -/
theorem alike_restarted (s : Surroundings) (arguments arguments' : List OsText)
    (output errors : Sink) (m : Machine) :
    (restarted s arguments output errors m).Alike (fun _ => false)
      (restarted s arguments' output errors m) := by
  have hnone : ∀ e : Environment, e.restrict (fun _ => false) = [] :=
    fun _ => List.filter_eq_nil_iff.mpr fun _ _ => Bool.false_ne_true
  exact ⟨rfl, rfl, rfl, rfl, (hnone _).trans (hnone _).symm⟩

/-- More assignments make no difference to what is handed over. -/
theorem handsOver_of_adds (h : AddsAssignments arguments arguments' line line' added)
    (hhands : line.HandsOver) : line'.HandsOver := by
  unfold CommandLine.HandsOver
  rw [h.command, h.ofFlags]
  exact hhands

/-- In the second process the assignments are in the environment from the start.
    Those to variables that configuration is not read from do not show there. -/
theorem alike_second (h : AddsAssignments arguments arguments' line line' added)
    (hhands : line.HandsOver) (hunasked : ∀ a ∈ added, Config.asksFor (.ofChars a.key) = false)
    {config : Config} (hconfiguration : configuration s arguments m = .ok config)
    {output errors : Sink} {again again' : List OsText} {n n' : Machine}
    (hn : Restarts s arguments output errors m again n)
    (hn' : Restarts s arguments' output errors m again' n')
    (hsame : n.Alike (fun _ => false) n') : n.Alike Config.asksFor n' := by
  have hhands' := handsOver_of_adds h hhands
  rcases exists_ready_of_configuration h.reads hconfiguration with ⟨assignments, hready⟩
  rcases h.adds.restrict_applyAll hready.assigns with ⟨all, hall, hrestrict⟩
  refine { hsame with environment := ?_ }
  rw [hn.environment, hn'.environment, environment_handedOver h.reads hhands hready,
    environment_handedOver h.readsMore hhands' (ready_of_adds h hready hall)]
  exact hrestrict _ _ hunasked rfl

/-- The second process has the configuration arguments of the first one. If it
    accepts its command line, it reads what the first one has read. -/
theorem Restarts.reads {output errors : Sink} {again : List OsText} {n : Machine}
    (hn : Restarts s arguments output errors m again n)
    (hparse : CommandLine.parse (ConfigArguments.split arguments).withoutConfig = .ok line)
    (hhands : line.HandsOver) :
    (ConfigArguments.split again).configArguments =
        (ConfigArguments.split arguments).configArguments ∧
      ∀ read, CommandLine.parse (ConfigArguments.split again).withoutConfig = .ok read →
        ∃ path, read = { line with makeJobserver := some path } := by
  rcases hn.commandLine with ⟨handoff, texts, htexts, rfl⟩
  rcases hhands with ⟨⟨words, hrun⟩, hunset⟩
  rcases Relaunch.parse_texts_cases hparse hrun hunset htexts with
    ⟨hconfig, path, -, hrefused | hread⟩
  · refine ⟨hconfig, fun read h => ?_⟩
    rw [hrefused] at h
    cases h
  · exact ⟨hconfig, fun read h => ⟨path, Except.ok.inj (h.symm.trans hread)⟩⟩

/-- Assignments never change the configuration of the process that is given them.
    They change its report of configuration files only if one is to a variable
    that this report asks for. The second process, on machines that differ in
    variables only, has the same configuration, too, and reports the same files,
    if none is to a variable that configuration is read from. -/
theorem assignments_keep_configuration
    (h : AddsAssignments arguments arguments' line line' added) (s : Surroundings)
    (launcher : Launcher) (replacer : Replacer) (output errors : Sink) (m : Machine) :
    configuration s arguments' m = configuration s arguments m ∧
      ((∀ a ∈ added, Discovery.asksFor (.ofChars a.key) = false) →
        reportedFiles s arguments' m = reportedFiles s arguments m ∧
        ((∀ words, line.command ≠ some (.run words)) →
          ((run s arguments' output errors).run m).1 =
            ((run s arguments output errors).run m).1)) ∧
      ((∀ a ∈ added, Config.asksFor (.ofChars a.key) = false) →
        line.HandsOver → ∀ config, configuration s arguments m = .ok config →
        ∀ again again' n n', Restarts s arguments output errors m again n →
          Restarts s arguments' output errors m again' n' → n.Alike (fun _ => false) n' →
          let second := Surroundings.standard launcher replacer
          second.load n' (ConfigArguments.split again').configArguments =
              second.load n (ConfigArguments.split again).configArguments ∧
            ∀ read read',
              CommandLine.parse (ConfigArguments.split again).withoutConfig = .ok read →
              CommandLine.parse (ConfigArguments.split again').withoutConfig = .ok read' →
              configuration second again' n' = configuration second again n ∧
                reportedFiles second again' n' = reportedFiles second again n) := by
  refine ⟨configuration_of_adds h s m, fun hunasked => ⟨reportedFiles_of_adds h hunasked s m,
    fun hcommand => report_of_adds h hcommand hunasked s output errors m⟩, ?_⟩
  intro hunasked hhands config hloaded again again' n n' hn hn' hsame second
  -- The assignments are in the environment now, but not in the part that counts.
  have halike := alike_second h hhands hunasked hloaded hn hn' hsame
  rcases hn.reads h.reads hhands with ⟨hconfig, hread⟩
  rcases hn'.reads h.readsMore (handsOver_of_adds h hhands) with ⟨hconfig', hread'⟩
  have harguments : (ConfigArguments.split again').configArguments =
      (ConfigArguments.split again).configArguments :=
    hconfig'.trans (h.configArguments.trans hconfig.symm)
  have hload : second.load n' (ConfigArguments.split again').configArguments =
      second.load n (ConfigArguments.split again).configArguments := by
    rw [harguments]
    exact Config.load_of_alike halike _
  refine ⟨hload, fun read read' hparse hparse' => ?_⟩
  -- The two lines differ in the path of the handoff file, which configuration does not see.
  rcases hread read hparse with ⟨path, rfl⟩
  rcases hread' read' hparse' with ⟨path', rfl⟩
  rcases prepare_of_adds hparse hparse' h.debug h.adds halike (hn'.logger.trans hn.logger.symm)
    hload hunasked with ⟨hconfiguration, hprepared⟩
  exact ⟨hconfiguration, reportedFiles_of_alike hconfiguration harguments
    (hprepared.mono Config.asksFor_of_discovery)⟩

/-- Flags for a compiler are no part of the configuration. A program that is given
    them runs with the configuration that it would have had without them, and the
    configuration is printed as it would have been. -/
theorem assignments_keep_configuration_compilerFlags :
    let launcher : Launcher := fun _ _ => return .ok (.exited 0)
    let replacer : Replacer := fun _ _ => return none
    let s := Surroundings.standard launcher replacer
    let m : Machine := { (default : Machine) with files := ⟨[(["tmp"], .directory 0o777)]⟩ }
    let arguments : List OsText := ["tcf", "run", "cc"]
    let arguments' := CommandLine.assigning ["CFLAGS=-O2"] arguments
    configuration s arguments' m = configuration s arguments m ∧
      configuration s (["tcf", "--make-jobserver=/tmp/b.mk", "--environment=CFLAGS=-O2", "run",
          "cc"].map OsText.ofString) (restarted s arguments' .unlimited .unlimited m) =
        configuration s (["tcf", "--make-jobserver=/tmp/a.mk", "run", "cc"].map OsText.ofString)
          (restarted s arguments .unlimited .unlimited m) ∧
      ((run s (CommandLine.assigning ["CFLAGS=-O2"] ["tcf", "config"]) .unlimited .unlimited).run
          m).1 = ((run s ["tcf", "config"] .unlimited .unlimited).run m).1 := by
  intro launcher replacer s m arguments arguments'
  have hadded : ["CFLAGS=-O2"].mapM Assignment.parse =
      .ok [⟨"CFLAGS".toList, "-O2".toList⟩] := by
    decide +kernel
  have hrun : CommandLine.parse (ConfigArguments.split arguments).withoutConfig =
      .ok ⟨false, false, none, false, [], some (.run ["cc"])⟩ := by
    decide +kernel
  have hprint : CommandLine.parse (ConfigArguments.split ["tcf", "config"]).withoutConfig =
      .ok ⟨false, false, none, false, [], some .config⟩ := by
    decide +kernel
  have hconfiguration : configuration s arguments m =
      .ok ⟨"/tmp/tcf-state", "/usr/share/tcf", [], "warn", .compact, 1, "make"⟩ := by
    decide +kernel
  have htexts : (Relaunch.ofArguments arguments).commandLine "/tmp/a.mk" =
      .ok ["tcf", "--make-jobserver=/tmp/a.mk", "run", "cc"] := by
    decide +kernel
  have htexts' : (Relaunch.ofArguments arguments').commandLine "/tmp/b.mk" =
      .ok ["tcf", "--make-jobserver=/tmp/b.mk", "--environment=CFLAGS=-O2", "run", "cc"] := by
    decide +kernel
  rcases assignments_keep_configuration (CommandLine.addsAssignments_assigning hrun rfl hadded) s
    launcher replacer .unlimited .unlimited m with ⟨hfirst, -, hsecond⟩
  rcases assignments_keep_configuration (CommandLine.addsAssignments_assigning hprint rfl hadded) s
    launcher replacer .unlimited .unlimited m with ⟨-, hreport, -⟩
  have hagain := (hsecond (by decide +kernel) ⟨⟨_, rfl⟩, rfl⟩ _ hconfiguration _ _ _ _
    (restarts_restarted htexts s _ _ m) (restarts_restarted htexts' s _ _ m)
    (alike_restarted s _ _ _ _ m)).2
    ⟨false, false, some "/tmp/a.mk", false, [], some (.run ["cc"])⟩
    ⟨false, false, some "/tmp/b.mk", false, ["CFLAGS=-O2"], some (.run ["cc"])⟩
    (by decide +kernel) (by decide +kernel)
  exact ⟨hfirst, hagain.1, (hreport (by decide +kernel)).2 fun _ h => by cases h⟩

/-- A setting is part of the configuration of the second process. -/
theorem assignments_reach_secondProcess :
    let s := Surroundings.standard (fun _ _ => return .ok (.exited 0)) fun _ _ => return none
    let m : Machine := { (default : Machine) with files := ⟨[(["tmp"], .directory 0o777)]⟩ }
    let arguments : List OsText := ["tcf", "run", "cc"]
    let arguments' : List OsText := ["tcf", "-e", "TCF_LOG_FILTER=debug", "run", "cc"]
    let again := ["tcf", "--make-jobserver=/tmp/h.mk", "run", "cc"].map OsText.ofString
    let again' := ["tcf", "--make-jobserver=/tmp/h.mk", "-e", "TCF_LOG_FILTER=debug", "run",
      "cc"].map OsText.ofString
    let n := restarted s arguments .unlimited .unlimited m
    let n' := restarted s arguments' .unlimited .unlimited m
    AddsAssignments arguments arguments'
        ⟨false, false, none, false, [], some (.run ["cc"])⟩
        ⟨false, false, none, false, ["TCF_LOG_FILTER=debug"], some (.run ["cc"])⟩
        [⟨"TCF_LOG_FILTER".toList, "debug".toList⟩] ∧
      Restarts s arguments .unlimited .unlimited m again n ∧
      Restarts s arguments' .unlimited .unlimited m again' n' ∧
      (configuration s again n).map Config.logFilter = .ok "warn" ∧
      (configuration s again' n').map Config.logFilter = .ok "debug" := by
  intro s m arguments arguments' again again' n n'
  have htexts : (Relaunch.ofArguments arguments).commandLine "/tmp/h.mk" =
      .ok ["tcf", "--make-jobserver=/tmp/h.mk", "run", "cc"] := by
    decide +kernel
  have htexts' : (Relaunch.ofArguments arguments').commandLine "/tmp/h.mk" =
      .ok ["tcf", "--make-jobserver=/tmp/h.mk", "-e", "TCF_LOG_FILTER=debug", "run", "cc"] := by
    decide +kernel
  refine ⟨⟨rfl, by decide +kernel, by decide +kernel, rfl, .add (by decide +kernel) .nil⟩,
    restarts_restarted htexts s _ _ m, restarts_restarted htexts' s _ _ m, ?_, ?_⟩
  · decide +kernel
  · decide +kernel

end Invocation

end BrokerClient
