import BrokerClient.Proofs.Host.Injection
import BrokerClient.Proofs.Invocation.Steps

/-!
# Before the Command

Four things can go wrong before a command has anything to do with a machine: its
line is refused, the configuration cannot be loaded, an assignment is malformed,
or the log filter is. They are met in this order, and each of them ends the run
at once. Up to there files, directories and requests are what they were.

If none of them goes wrong, the configuration is that of the machine as it was
found, since it is loaded before the assignments are applied. The assignments are
in the environment from then on.

## Main definitions

* `Invocation.Ready`: Nothing stands in the way of a command.
* `Invocation.planned`, `Machine.assigned`: What is known, and the machine, when everything
  has been read.
* `Invocation.proceed`: What is left of a run when its session has begun.

## Theorems

* `Assignment.run_inject_ok`: Assignments are applied in order.
* `Invocation.run_steps_of_ready`: How a run goes on when everything has been read.
* `Invocation.run_prepare_ok`: What is known when everything has been read.
* `Invocation.run_prepare_error`: A run that ends there has only logged and set variables.
-/

namespace BrokerClient

/-- A machine with assignments in its environment. -/
def Machine.assigned (m : Machine) (assignments : List Assignment) (events : List Log.Event)
    (logger : Option Log.Logger) : Machine :=
  { m with environment := Assignment.applyAll m.environment assignments, events, logger }

/-- Assignments that are all well formed are applied in order. -/
theorem Assignment.run_inject_ok {texts : List String} {assignments : List Assignment}
    (h : texts.mapM parse = .ok assignments) (m : Machine) :
    ∃ events, (inject texts).run m = (.ok (), m.assigned assignments events m.logger) :=
  ⟨_, run_inject_eq h m⟩

namespace Invocation

theorem run_settleLogger_ok {config : Config} {debug : Bool} {m : Machine}
    (h : m.logger.isSome = true ∨
      ∃ logger, Log.Logger.create config.logFilter config.logFormat debug = .ok logger) :
    ∃ logger, (settleLogger config debug).run m = (.ok (), { m with logger }) := by
  unfold settleLogger
  rw [Action.run_bind, Action.run_get]
  split
  · exact ⟨m.logger, rfl⟩
  · next hnone =>
    rcases h with h | ⟨logger, hlogger⟩
    · rw [hnone] at h
      cases h
    · rw [hlogger]
      exact ⟨some logger, rfl⟩

theorem run_settleLogger_error {config : Config} {debug : Bool} {m : Machine}
    (h : ¬(m.logger.isSome = true ∨
      ∃ logger, Log.Logger.create config.logFilter config.logFormat debug = .ok logger)) :
    ∃ flaw, (settleLogger config debug).run m = (.error flaw, m) := by
  rw [not_or, Bool.not_eq_true, Option.isSome_eq_false_iff, Option.isNone_iff_eq_none] at h
  unfold settleLogger
  rw [Action.run_bind, Action.run_get]
  simp only [h.1]
  cases hcreate : Log.Logger.create config.logFilter config.logFormat debug with
  | ok logger => exact absurd ⟨logger, hcreate⟩ h.2
  | error flaw => exact ⟨flaw, rfl⟩

/-- Only the logger of a machine counts for how it is settled. -/
theorem run_settleLogger_of_logger (config : Config) (debug : Bool) {m m' : Machine}
    (h : m'.logger = m.logger) :
    ∃ result logger, (settleLogger config debug).run m = (result, { m with logger }) ∧
      (settleLogger config debug).run m' = (result, { m' with logger }) := by
  have hsettled : ∀ before, ∃ result logger, ∀ n : Machine, n.logger = before →
      (settleLogger config debug).run n = (result, { n with logger }) := by
    intro before
    unfold settleLogger
    cases before with
    | some logger =>
      refine ⟨.ok (), some logger, fun n hn => ?_⟩
      rw [Action.run_bind, Action.run_get]
      simp only [hn]
      rw [← hn]
      rfl
    | none =>
      cases Log.Logger.create config.logFilter config.logFormat debug with
      | ok logger =>
        refine ⟨.ok (), some logger, fun n hn => ?_⟩
        rw [Action.run_bind, Action.run_get]
        simp only [hn]
        rfl
      | error flaw =>
        refine ⟨.error flaw, none, fun n hn => ?_⟩
        rw [Action.run_bind, Action.run_get]
        simp only [hn]
        rw [← hn]
        rfl
  rcases hsettled m.logger with ⟨result, logger, hrun⟩
  exact ⟨result, logger, hrun m rfl, hrun m' h⟩

/-- Nothing stands in the way of a command whose line was read: there is a
    configuration, all assignments are well formed, and so is the log filter,
    unless the logger is settled already. -/
structure Ready (s : Surroundings) (arguments : List OsText) (line : CommandLine) (m : Machine)
    (config : Config) (assignments : List Assignment) : Prop where
  loads : s.load m (ConfigArguments.split arguments).configArguments = .ok config
  assigns : line.environment.mapM Assignment.parse = .ok assignments
  logs : m.logger.isSome = true ∨
    ∃ logger, Log.Logger.create config.logFilter config.logFormat line.debug = .ok logger

/-- What is known of a command line that was read, with a configuration. -/
def planned (arguments : List OsText) (line : CommandLine) (config : Config) : Plan :=
  ⟨arguments, ConfigArguments.split arguments, line, config⟩

variable {s : Surroundings} {arguments : List OsText} {line : CommandLine} {m : Machine}

theorem run_prepare_of_faults {faults : List Config.LoadFault}
    (hparse : CommandLine.parse (ConfigArguments.split arguments).withoutConfig = .ok line)
    (hload : s.load m (ConfigArguments.split arguments).configArguments = .error faults) :
    (prepare s arguments).run.run m = (.error (.loading faults), m) := by
  have hread : (pure (CommandLine.parse (ConfigArguments.split arguments).withoutConfig) :
      Action _).run m = (.ok line, m) := congrArg (·, m) hparse
  have hloads : (do return s.load (← get) (ConfigArguments.split arguments).configArguments :
      Action _).run m = (.error faults, m) := congrArg (·, m) hload
  exact (run_bind_ok (run_ofAction_ok _ hread)).trans (run_bind_error (run_ofAction_error _ hloads))

/-- What is left to do when there is a configuration. -/
theorem run_prepare_of_loads {config : Config}
    (hparse : CommandLine.parse (ConfigArguments.split arguments).withoutConfig = .ok line)
    (hload : s.load m (ConfigArguments.split arguments).configArguments = .ok config) :
    (prepare s arguments).run.run m = (do
      Step.ofAction .assignment (Assignment.inject line.environment)
      Step.ofAction .logging (settleLogger config line.debug)
      return planned arguments line config : Step Plan).run.run m := by
  have hread : (pure (CommandLine.parse (ConfigArguments.split arguments).withoutConfig) :
      Action _).run m = (.ok line, m) := congrArg (·, m) hparse
  have hloads : (do return s.load (← get) (ConfigArguments.split arguments).configArguments :
      Action _).run m = (.ok config, m) := congrArg (·, m) hload
  exact (run_bind_ok (run_ofAction_ok _ hread)).trans (run_bind_ok (run_ofAction_ok _ hloads))

/-- When everything has been read, the configuration is that of the machine as it
    was found. -/
theorem run_prepare_ok {config : Config} {assignments : List Assignment}
    (hparse : CommandLine.parse (ConfigArguments.split arguments).withoutConfig = .ok line)
    (h : Ready s arguments line m config assignments) :
    ∃ events logger, (prepare s arguments).run.run m =
      (.ok (planned arguments line config), m.assigned assignments events logger) := by
  rcases Assignment.run_inject_ok h.assigns m with ⟨events, hinject⟩
  -- Assignments leave the logger alone, so it is settled as it would have been before.
  rcases run_settleLogger_ok (m := m.assigned assignments events m.logger) h.logs with
    ⟨logger, hlogger⟩
  refine ⟨events, logger, ?_⟩
  rw [run_prepare_of_loads hparse h.loads, run_bind_ok (run_ofAction_ok _ hinject),
    run_bind_ok (run_ofAction_ok _ hlogger)]
  rfl

/-- A run that ends before everything has been read has at most logged and set
    variables. -/
theorem run_prepare_error
    (hparse : CommandLine.parse (ConfigArguments.split arguments).withoutConfig = .ok line)
    (h : ¬∃ config assignments, Ready s arguments line m config assignments) :
    ∃ e environment events, (prepare s arguments).run.run m =
      (.error e, { m with environment, events }) := by
  cases hload : s.load m (ConfigArguments.split arguments).configArguments with
  | error faults => exact ⟨_, m.environment, m.events, run_prepare_of_faults hparse hload⟩
  | ok config =>
    rw [run_prepare_of_loads hparse hload]
    cases hassign : line.environment.mapM Assignment.parse with
    | error e =>
      refine ⟨.assignment e, m.environment, m.events, ?_⟩
      rw [run_bind_error (run_ofAction_error _ (Assignment.run_inject_error hassign m))]
    | ok assignments =>
      rcases Assignment.run_inject_ok hassign m with ⟨events, hinject⟩
      -- Only the logger is left to fail.
      rcases run_settleLogger_error (m := m.assigned assignments events m.logger)
        fun hlogger => h ⟨config, assignments, hload, hassign, hlogger⟩ with ⟨flaw, hflaw⟩
      refine ⟨.logging flaw, Assignment.applyAll m.environment assignments, events, ?_⟩
      rw [run_bind_ok (run_ofAction_ok _ hinject), run_bind_error (run_ofAction_error _ hflaw)]
      rfl

/-- What is left of a run when its session has begun. -/
def proceed (s : Surroundings) (p : Plan) (session : Session) (output errors : Sink) :
    Step Report := do
  match ← settleHandoff s p with
  | .direct => work s p session none output errors
  | .leased handoff => work s p session (some handoff) output errors
  | .replaced => return ⟨.replaced, output, errors⟩

/-- If nothing stands in the way of the command, a session is started on the
    machine with the assignments, and the run goes on with it. -/
theorem run_steps_of_ready {config : Config} {assignments : List Assignment}
    (hparse : CommandLine.parse (ConfigArguments.split arguments).withoutConfig = .ok line)
    (h : Ready s arguments line m config assignments) (output errors : Sink) :
    ∃ events logger, (steps s arguments output errors).run.run m =
      (proceed s (planned arguments line config)
        ((Session.start config).run (m.assigned assignments events logger)).1 output
        errors).run.run ((Session.start config).run (m.assigned assignments events logger)).2 := by
  rcases run_prepare_ok hparse h with ⟨events, logger, hprepare⟩
  refine ⟨events, logger, ?_⟩
  unfold steps
  rw [run_bind_ok hprepare]
  exact run_bind_ok (run_act (Session.start config) (m.assigned assignments events logger))

end Invocation

end BrokerClient
