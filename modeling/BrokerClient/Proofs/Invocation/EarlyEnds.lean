import BrokerClient.Proofs.Invocation.Preparation
import Mathlib.Control.Monad.Basic

/-!
# Early Ends

A run that stops before its session stops in one of four steps, and each of them
has done its work or nothing. The line is read and the configuration is loaded
without a change to the machine. Assignments are all read before the first is
applied, so a malformed one finds the environment as it was. Only the logger is
settled with the assignments in place: a refused log filter leaves them in the
environment, and nothing else.

Which step it is depends on the first thing that is wrong (`Stops`), and the run
stops there exactly in this case (`steps_eq_error_iff`). The only other error is
that of a handoff, which has a session before it.

## Main definitions

* `InvocationError.precedesAssignments`: Errors that are met before an assignment is applied.
* `InvocationError.isReport`: Help and version.
* `Invocation.Stops`: What a run has met when it stops before its session, and what it leaves.

## Theorems

* `Invocation.stops_of_run_prepare`: The steps before the session stop at the first fault.
* `Invocation.steps_eq_error_iff`: So does the whole run.
* `Invocation.early_end_leaves_no_trace`: What a run that has stopped leaves behind, and its exit
  code.
-/

namespace BrokerClient

namespace InvocationError

/-- Whether an error is met before an assignment is applied. -/
def precedesAssignments : InvocationError → Bool
  | usage _ | loading _ | assignment _ => true
  | logging _ | handoff _ => false

/-- Whether an error is met before the session. -/
def precedesSession : InvocationError → Bool
  | handoff _ => false
  | _ => true

/-- Whether an error is help or a version that was asked for. -/
def isReport : InvocationError → Bool
  | usage error => error.isReport
  | _ => false

end InvocationError

namespace Invocation

variable {s : Surroundings} {arguments : List OsText} {m m' : Machine} {e : InvocationError}

/-- What a run has met when it stops before its session, and the machine that it
    leaves behind, events apart. Each case has passed the steps of those before
    it. -/
inductive Stops (s : Surroundings) (arguments : List OsText) (m : Machine) :
    InvocationError → Machine → Prop
  | usage {error : Options.Error}
    (refused : CommandLine.parse (ConfigArguments.split arguments).withoutConfig = .error error) :
    Stops s arguments m (.usage error) m
  | loading {line : CommandLine} {faults : List Config.LoadFault}
    (parses : CommandLine.parse (ConfigArguments.split arguments).withoutConfig = .ok line)
    (faulty : s.load m (ConfigArguments.split arguments).configArguments = .error faults) :
    Stops s arguments m (.loading faults) m
  | assignment {line : CommandLine} {config : Config} {error : AssignmentError}
    (parses : CommandLine.parse (ConfigArguments.split arguments).withoutConfig = .ok line)
    (loads : s.load m (ConfigArguments.split arguments).configArguments = .ok config)
    (malformed : line.environment.mapM Assignment.parse = .error error) :
    Stops s arguments m (.assignment error) m
  | logging {line : CommandLine} {config : Config} {assignments : List Assignment}
    {flaw : Log.Filter.Flaw} (events : List Log.Event)
    (parses : CommandLine.parse (ConfigArguments.split arguments).withoutConfig = .ok line)
    (loads : s.load m (ConfigArguments.split arguments).configArguments = .ok config)
    (assigns : line.environment.mapM Assignment.parse = .ok assignments)
    (unsettled : m.logger = none)
    (refused : Log.Logger.create config.logFilter config.logFormat line.debug = .error flaw) :
    Stops s arguments m (.logging flaw) (m.assigned assignments events none)

/-! ## The steps before the session -/

theorem run_prepare_of_refused {error : Options.Error}
    (h : CommandLine.parse (ConfigArguments.split arguments).withoutConfig = .error error) :
    (prepare s arguments).run.run m = (.error (.usage error), m) := by
  have hread : (pure (CommandLine.parse (ConfigArguments.split arguments).withoutConfig) :
      Action _).run m = (.error error, m) := congrArg (·, m) h
  exact run_bind_error (run_ofAction_error _ hread)

/-- A logger that is to be settled is refused exactly if its filter is. -/
theorem run_settleLogger_eq_error_iff {config : Config} {debug : Bool} {flaw : Log.Filter.Flaw} :
    (settleLogger config debug).run m = (.error flaw, m') ↔
      m.logger = none ∧ Log.Logger.create config.logFilter config.logFormat debug = .error flaw ∧
        m' = m := by
  unfold settleLogger
  rw [Action.run_bind, Action.run_get]
  constructor
  · intro h
    split at h
    · cases h
    · next hnone =>
      split at h
      · cases h
      · next hrefused =>
        cases h
        exact ⟨hnone, hrefused, rfl⟩
  · rintro ⟨hnone, hrefused, rfl⟩
    rw [hnone, hrefused]
    rfl

/-- The steps before the session stop at the first fault, with the machine as this
    fault has found it. -/
theorem stops_of_run_prepare (h : (prepare s arguments).run.run m = (.error e, m')) :
    Stops s arguments m e m' := by
  cases hparse : CommandLine.parse (ConfigArguments.split arguments).withoutConfig with
  | error error =>
    rw [run_prepare_of_refused hparse] at h
    cases h
    exact .usage hparse
  | ok line =>
    cases hload : s.load m (ConfigArguments.split arguments).configArguments with
    | error faults =>
      rw [run_prepare_of_faults hparse hload] at h
      cases h
      exact .loading hparse hload
    | ok config =>
      rw [run_prepare_of_loads hparse hload] at h
      cases hassign : line.environment.mapM Assignment.parse with
      | error error =>
        rw [run_bind_error (run_ofAction_error _ (Assignment.run_inject_error hassign m))] at h
        cases h
        exact .assignment hparse hload hassign
      | ok assignments =>
        rcases Assignment.run_inject_ok hassign m with ⟨events, hinject⟩
        rw [run_bind_ok (run_ofAction_ok _ hinject)] at h
        -- Only the logger is left to fail.
        rcases hsettle : (settleLogger config line.debug).run
          (m.assigned assignments events m.logger) with ⟨flaw | u, m₁⟩
        · rw [run_bind_error (run_ofAction_error _ hsettle)] at h
          cases h
          rcases run_settleLogger_eq_error_iff.mp hsettle with ⟨hunsettled, hrefused, rfl⟩
          have hlogger : m.logger = none := hunsettled
          rw [hlogger]
          exact .logging events hparse hload hassign hlogger hrefused
        · rw [run_bind_ok (run_ofAction_ok _ hsettle)] at h
          cases h

/-- A fault stops the steps before the session. -/
theorem run_prepare_of_stops (h : Stops s arguments m e m') :
    ∃ events, (prepare s arguments).run.run m = (.error e, { m' with events }) := by
  cases h with
  | usage refused => exact ⟨m.events, run_prepare_of_refused refused⟩
  | loading parses faulty => exact ⟨m.events, run_prepare_of_faults parses faulty⟩
  | assignment parses loads malformed =>
    refine ⟨m.events, ?_⟩
    rw [run_prepare_of_loads parses loads,
      run_bind_error (run_ofAction_error _ (Assignment.run_inject_error malformed m))]
  | logging _ parses loads assigns unsettled refused =>
    rcases Assignment.run_inject_ok assigns m with ⟨events, hinject⟩
    rw [unsettled] at hinject
    refine ⟨events, ?_⟩
    rw [run_prepare_of_loads parses loads, run_bind_ok (run_ofAction_ok _ hinject),
      run_bind_error (run_ofAction_error _
        (run_settleLogger_eq_error_iff.mpr ⟨rfl, refused, rfl⟩))]
    rfl

/-! ## The whole run -/

/-- The decision about the handoff fails with an error of its own. -/
theorem exists_handoff_of_settleHandoff {p : Plan}
    (h : (settleHandoff s p).run.run m = (.error e, m')) : ∃ error, e = .handoff error := by
  unfold settleHandoff at h
  split at h
  · have hcoordinate := congrArg Prod.fst ((run_ofAction _ _ _).symm.trans h)
    rcases exists_of_mapError_eq_error hcoordinate with ⟨error, -, rfl⟩
    exact ⟨error, rfl⟩
  · cases h

theorem exists_handoff_of_proceed {p : Plan} {session : Session} {output errors : Sink}
    (h : (proceed s p session output errors).run.run m = (.error e, m')) :
    ∃ error, e = .handoff error := by
  unfold proceed at h
  rcases hsettle : (settleHandoff s p).run.run m with ⟨_ | coordination, m₁⟩
  · rw [run_bind_error hsettle] at h
    cases h
    exact exists_handoff_of_settleHandoff hsettle
  · rw [run_bind_ok hsettle] at h
    cases coordination <;> cases h

/-- A run that stops before its session has met what is wrong first. -/
theorem stops_of_steps {output errors : Sink} (he : e.precedesSession = true)
    (h : (steps s arguments output errors).run.run m = (.error e, m')) :
    Stops s arguments m e m' := by
  unfold steps at h
  rcases hprepare : (prepare s arguments).run.run m with ⟨_ | p, m₁⟩
  · rw [run_bind_error hprepare] at h
    cases h
    exact stops_of_run_prepare hprepare
  · -- Behind the session there are only the errors of the handoff.
    rw [run_bind_ok hprepare, run_bind_ok (run_act (Session.start p.config) m₁)] at h
    rcases exists_handoff_of_proceed h with ⟨error, rfl⟩
    cases he

/-- A run stops before its session exactly at the first thing that is wrong. -/
theorem steps_eq_error_iff {output errors : Sink} (he : e.precedesSession = true) :
    ((steps s arguments output errors).run.run m).1 = .error e ↔
      ∃ m', Stops s arguments m e m' := by
  refine ⟨fun h => ⟨_, stops_of_steps he (Prod.ext h rfl)⟩, fun ⟨m', h⟩ => ?_⟩
  rcases run_prepare_of_stops h with ⟨events, hprepare⟩
  unfold steps
  rw [run_bind_error hprepare]

theorem ending_reportError (output errors : Sink) (e : InvocationError) :
    (reportError output errors e).ending = .exited (if e.isReport then 0 else 1) := by
  cases e with
  | usage error =>
    unfold reportError InvocationError.isReport
    simp only
    split <;> rfl
  | _ => rfl

/-- A run that stops with its usage, its configuration or an assignment leaves the
    whole machine as it was: environment, files and requests. One that stops with
    its log filter has applied all assignments and has done nothing else, events
    apart. Only help and version are no failure. Each of the errors is met exactly
    if it is the first thing that is wrong. -/
theorem early_end_leaves_no_trace (s : Surroundings) (arguments : List OsText)
    (output errors : Sink) (m : Machine) :
    let stopped := ((steps s arguments output errors).run.run m).1
    let ended := (run s arguments output errors).run m
    (∀ e, stopped = .error e → e.precedesAssignments = true → ended.2 = m) ∧
      (∀ flaw, stopped = .error (.logging flaw) → ∃ line assignments events,
        CommandLine.parse (ConfigArguments.split arguments).withoutConfig = .ok line ∧
        line.environment.mapM Assignment.parse = .ok assignments ∧
        ended.2 =
          { m with environment := Assignment.applyAll m.environment assignments, events }) ∧
      (∀ e, stopped = .error e → ended.1.ending = .exited (if e.isReport then 0 else 1)) ∧
      ∀ e, e.precedesSession = true → (stopped = .error e ↔ ∃ m', Stops s arguments m e m') := by
  intro stopped ended
  have hended : ended.2 = ((steps s arguments output errors).run.run m).2 :=
    machine_run s arguments output errors m
  rw [hended]
  refine ⟨fun e h he => ?_, fun flaw h => ?_, fun e h => ?_, fun e he => steps_eq_error_iff he⟩
  · have hsession : e.precedesSession = true := by
      cases e with
      | handoff error => cases he
      | _ => rfl
    generalize hafter : ((steps s arguments output errors).run.run m).2 = after
    cases stops_of_steps hsession (Prod.ext h hafter) with
    | logging => cases he
    | _ => rfl
  · generalize hafter : ((steps s arguments output errors).run.run m).2 = after
    cases stops_of_steps rfl (Prod.ext h hafter) with
    | logging events parses loads assigns unsettled refused =>
      refine ⟨_, _, events, parses, assigns, ?_⟩
      rw [← unsettled]
      rfl
  · rw [show ended.1 = _ from report_of_steps_error h]
    exact ending_reportError output errors e

/-- Of two assignments the second is malformed, so the first is not applied. With a
    log filter that is refused, it stays. The version is no failure. -/
theorem early_end_leaves_no_trace_twoAssignments :
    let config : Config := ⟨"/state", "/share", [], "a=b", .compact, 4, "make"⟩
    let s : Surroundings := ⟨fun _ _ => .ok config, fun _ _ => return .ok (.exited 0),
      fun _ _ => return none⟩
    let ended (arguments : List OsText) := (run s arguments .unlimited .unlimited).run default
    let malformed := ended ["tcf", "-e", "A=1", "-e", "=x", "run", "true"]
    let refused := ended ["tcf", "-e", "A=1", "config"]
    let version := ended ["tcf", "-e", "A=1", "--version"]
    (malformed.2 = default ∧ malformed.1.ending = .exited 1) ∧
      (refused.2.environment = ⟨[("A", "1")]⟩ ∧ refused.2.files = .empty ∧
        refused.2.launches = [] ∧ refused.2.replacements = [] ∧
        refused.1.ending = .exited 1) ∧
      version.2 = default ∧ version.1.ending = .exited 0 := by
  intro config s ended malformed refused version
  have hstop₁ : ((steps s ["tcf", "-e", "A=1", "-e", "=x", "run", "true"] .unlimited
      .unlimited).run.run default).1 = .error (.assignment (.missingKey "=x")) := by
    decide +kernel
  have hstop₂ : ((steps s ["tcf", "-e", "A=1", "config"] .unlimited .unlimited).run.run
      default).1 = .error (.logging .level) := by
    decide +kernel
  have hstop₃ : ((steps s ["tcf", "-e", "A=1", "--version"] .unlimited .unlimited).run.run
      default).1 = .error (.usage (.version CommandLine.grammar.version)) := by
    decide +kernel
  have hparse : CommandLine.parse
      (ConfigArguments.split ["tcf", "-e", "A=1", "config"]).withoutConfig =
        .ok ⟨false, false, none, false, ["A=1"], some .config⟩ := by
    decide +kernel
  rcases early_end_leaves_no_trace s ["tcf", "-e", "A=1", "-e", "=x", "run", "true"]
    .unlimited .unlimited default with ⟨hkept₁, -, hcode₁, -⟩
  rcases early_end_leaves_no_trace s ["tcf", "-e", "A=1", "config"]
    .unlimited .unlimited default with ⟨-, hassigned, hcode₂, -⟩
  rcases early_end_leaves_no_trace s ["tcf", "-e", "A=1", "--version"]
    .unlimited .unlimited default with ⟨hkept₃, -, hcode₃, -⟩
  rcases hassigned _ hstop₂ with ⟨line, assignments, events, hline, hassign, hafter⟩
  cases hparse.symm.trans hline
  have hassignments : assignments = [⟨['A'], ['1']⟩] := Except.ok.inj (hassign.symm.trans rfl)
  have henvironment : Assignment.applyAll (default : Machine).environment [⟨['A'], ['1']⟩] =
      ⟨[("A", "1")]⟩ := by
    decide +kernel
  simp only [malformed, refused, version, ended]
  rw [hafter, hassignments, henvironment]
  exact ⟨⟨hkept₁ _ hstop₁ rfl, hcode₁ _ hstop₁⟩, ⟨rfl, rfl, rfl, rfl, hcode₂ _ hstop₂⟩,
    hkept₃ _ hstop₃ rfl, hcode₃ _ hstop₃⟩

end Invocation

end BrokerClient
