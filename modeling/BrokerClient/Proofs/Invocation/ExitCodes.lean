import BrokerClient.Proofs.Invocation.Consumption
import Mathlib.Control.Monad.Basic

/-!
# Exit Codes

A run that comes to its command has the exit code of the outcome of the command,
whatever the handler is that carries it out. What happens behind the command is
reported to nobody but the log: the end of the lease and the end of the session
have no part in the code, whether they succeed or not.

Which outcomes have which codes is the subject of the module on outcomes.

## Main definitions

* `Commands.ended`: The outcome of a program's end.
* `Commands.endCode`: The exit code of a program's end.
* `Invocation.Comes`: A run comes to its command.

## Theorems

* `Invocation.run_of_comes`: A run that comes to its command goes on with it.
* `Commands.outcome?_run`: The outcome of running a program.
* `Invocation.exit_code_tells_outcome`: The exit code says how the command has ended.
-/

namespace BrokerClient

/-! ## Programs -/

/-- An attempt that begins with an action goes on with its result. -/
theorem Attempt.run_act_bind {α β : Type} (x : Action α) (f : α → Attempt β) (c : Context)
    (m : Machine) :
    ((liftM x >>= f : Attempt β).run.run c).run m =
      ((f (x.run m).1).run.run c).run (x.run m).2 := rfl

namespace Commands

/-- What becomes of the end of a program that was to be run. -/
def ended (program : OsText) : Except IoError ExitStatus → Outcome
  | .ok status => .ok (resultOf status)
  | .error e => .error (.launch program.shown e)

/-- The exit code of the end of a program: the program's own, as far as it has one
    that fits a byte. -/
def endCode : Except IoError ExitStatus → UInt8
  | .ok (.exited status) => exitCode status
  | .ok (.signalled _) | .error _ => 1

theorem code_ended (program : OsText) (result : Except IoError ExitStatus) :
    (ended program result).code = endCode result := by
  rcases result with _ | _ | _ <;> rfl

/-- The command that runs a program has the outcome that its end stands for. -/
theorem outcome?_run (launcher : Launcher) (traces : Bool) (program : OsText)
    (words : List OsText) (c : Context) (m : Machine) :
    ∃ events, (dispatcher launcher traces).outcome? (some (.run (program :: words))) c m =
      some (ended program ((launcher.launch program words).run { m with events }).1) := by
  let begun := ((Action.log .info logTarget "running command" [("program", program.shown)]).run
    (Dispatcher.announced "run" m)).2
  have hbegun : begun = { m with events := begun.events } := rfl
  refine ⟨begun.events, ?_⟩
  rw [← hbegun]
  unfold Dispatcher.outcome?
  simp only [Option.bind_eq_bind, Option.bind_some, Command.name, handler?_run]
  unfold run
  simp only
  rw [Attempt.run_act_bind, Attempt.run_act_bind]
  rcases ((launcher.launch program words).run begun).1 with e | status <;> rfl

end Commands

namespace Invocation

variable {s : Surroundings} {arguments : List OsText} {m m₁ : Machine} {p : Plan}
  {session : Session} {lease : Option Path}

/-- A run comes to its command: everything is read, there is a session, and this
    process is to carry out the command, perhaps under a lease. -/
inductive Comes (s : Surroundings) (arguments : List OsText) (m : Machine) :
    Plan → Session → Option Path → Machine → Prop
  | direct {p : Plan} {session : Session} {m₁ m₂ m₃ : Machine}
    (prepares : (prepare s arguments).run.run m = (.ok p, m₁))
    (starts : (Session.start p.config).run m₁ = (session, m₂))
    (settles : (settleHandoff s p).run.run m₂ = (.ok .direct, m₃)) :
    Comes s arguments m p session none m₃
  | leased {p : Plan} {session : Session} {m₁ m₂ m₃ : Machine} {handoff : Path}
    (prepares : (prepare s arguments).run.run m = (.ok p, m₁))
    (starts : (Session.start p.config).run m₁ = (session, m₂))
    (settles : (settleHandoff s p).run.run m₂ = (.ok (.leased handoff), m₃)) :
    Comes s arguments m p session (some handoff) m₃

theorem run_steps_of_prepare (h : (prepare s arguments).run.run m = (.ok p, m₁))
    (output errors : Sink) :
    (steps s arguments output errors).run.run m =
      (proceed s p ((Session.start p.config).run m₁).1 output errors).run.run
        ((Session.start p.config).run m₁).2 := by
  unfold steps
  rw [run_bind_ok h]
  exact run_bind_ok (run_act (Session.start p.config) m₁)

/-- A run that comes to its command goes on with it. -/
theorem run_of_comes (h : Comes s arguments m p session lease m₁) (output errors : Sink) :
    (run s arguments output errors).run m = (work s p session lease output errors).run m₁ := by
  have hsteps : (steps s arguments output errors).run.run m =
      (.ok ((work s p session lease output errors).run m₁).1,
        ((work s p session lease output errors).run m₁).2) := by
    cases h with
    | direct prepares starts settles =>
      rw [run_steps_of_prepare prepares, starts]
      unfold proceed
      rw [run_bind_ok settles]
      exact run_act _ _
    | leased prepares starts settles =>
      rw [run_steps_of_prepare prepares, starts]
      unfold proceed
      rw [run_bind_ok settles]
      exact run_act _ _
  refine Prod.ext (report_of_steps (congrArg Prod.fst hsteps)) ?_
  rw [machine_run, hsteps]

/-- With the token of a handoff file a run comes to its command, if nothing stands
    in the way. -/
theorem comes_of_ready {line : CommandLine} {config : Config} {assignments : List Assignment}
    {words : List OsText} {handoff : Path}
    (hparse : CommandLine.parse (ConfigArguments.split arguments).withoutConfig = .ok line)
    (hready : Ready s arguments line m config assignments)
    (hrun : line.command = some (.run words))
    (htoken : HandoffToken.ofFlags line.makeJobserver line.noMakeJobserver = .handoff handoff) :
    ∃ session m₁,
      Comes s arguments m (planned arguments line config) session (some handoff) m₁ := by
  rcases run_prepare_ok hparse hready with ⟨events, logger, hprepare⟩
  rcases run_settleHandoff_leased (s := s) (p := planned arguments line config)
    (m := ((Session.start config).run (m.assigned assignments events logger)).2) hrun htoken with
    ⟨events', hsettle⟩
  exact ⟨_, _, .leased hprepare rfl hsettle⟩

/-- The exit code of a command is settled by the outcome of the command alone, in
    a run that comes to it and with the handlers of any dispatcher. It is zero for
    outcomes that report success, the integer for integers from 1 to 255, and one
    for all others, and for a command without a handler.

    For a document that a handler made its result from, success is a matter of its
    shape, and a number that is no integer of 64 bits counts as a failure. A
    program that was run counts as the end that it had. -/
theorem exit_code_tells_outcome (d : Dispatcher) (p : Plan) (session : Session)
    (lease : Option Path) (output errors : Sink) (m : Machine) :
    let outcome? := d.outcome? p.line.command
      ⟨p.config, Discovery.files m p.parts.configArguments, session, output, errors⟩ m
    ∃ code, ((carryOut d p session lease output errors).run m).1.ending = .exited code ∧
      code = outcome?.elim 1 Outcome.code ∧
      (∀ outcome, outcome? = some outcome → outcome.Tells code) ∧
      (∀ document, outcome? = some (.ok (.ofJson document)) →
        (code = 0 ↔ document = .null ∨ document = .bool true ∨
          document = .number (.integer 0) ∨ ∃ fields, document = .object fields) ∧
        ∀ number, document = .number number → ¬ number.IsSigned → code = 1) ∧
      ∀ s arguments m₀, Comes s arguments m₀ p session lease m →
        d = Commands.dispatcher s.launcher p.line.traces →
        ((run s arguments output errors).run m₀).1.ending = .exited code ∧
          ∀ program words, p.line.command = some (.run (program :: words)) → ∃ events,
            code = Commands.endCode
              ((s.launcher.launch program words).run { m with events }).1 := by
  intro outcome?
  have hcode : exitCode (outcome?.elim CommandResult.failure Outcome.result).exitStatus =
      outcome?.elim 1 Outcome.code := by
    cases outcome? <;> rfl
  have hending : ((carryOut d p session lease output errors).run m).1.ending =
      .exited (outcome?.elim 1 Outcome.code) := by
    rw [report_carryOut, Dispatcher.result_dispatch, ← hcode]
  refine ⟨_, hending, rfl, fun outcome h => ?_, fun document h => ⟨?_, ?_⟩,
    fun s arguments m₀ hcomes hd => ⟨?_, fun program words hrun => ?_⟩⟩
  · rw [h]
    exact outcome.tells_code
  · rw [h, ← CommandResult.succeeds_ofJson_iff, ← CommandResult.exitStatus_eq_zero_iff]
    exact exitCode_eq_zero_iff _
  · rintro number rfl hnumber
    rw [h]
    exact CommandResult.exitCode_ofJson_number hnumber
  · rw [run_of_comes hcomes, work_eq_carryOut, ← hd]
    exact hending
  · rcases Commands.outcome?_run s.launcher p.line.traces program words
      ⟨p.config, Discovery.files m p.parts.configArguments, session, output, errors⟩ m with
      ⟨events, h⟩
    have houtcome : outcome? = some (Commands.ended program
        ((s.launcher.launch program words).run { m with events }).1) := by
      simp only [outcome?]
      rw [hrun, hd]
      exact h
    refine ⟨events, ?_⟩
    rw [houtcome, ← Commands.code_ended program]
    rfl

/-- The integer 256 is no success, and neither is the fraction zero. A program's own
    code is that of the run, also if the handoff file cannot be removed, here because
    it is a directory. -/
theorem exit_code_tells_outcome_overflow :
    let config : Config := ⟨"/state", "/share", [], "info", .compact, 4, "make"⟩
    let session : Session := ((Session.start config).run default).1
    let ending (result : CommandResult) :=
      ((carryOut ((Dispatcher.empty false).register "logout" fun _ => return result)
        ⟨[], ⟨[], []⟩, ⟨false, false, none, false, [], some (.logout [])⟩, config⟩ session none
        .unlimited .unlimited).run default).1.ending
    let s : Surroundings := ⟨fun _ _ => .ok config, fun _ _ => return .ok (.exited 3),
      fun _ _ => return none⟩
    ending (.integer 256) = .exited 1 ∧
      ending (.ofJson (.number (.float (.zero false)))) = .exited 1 ∧
      ((run s ["tcf", "--make-jobserver=/", "run", "false"] .unlimited .unlimited).run
        default).1.ending = .exited 3 := by
  intro config session ending s
  refine ⟨?_, ?_, ?_⟩
  · rcases exit_code_tells_outcome ((Dispatcher.empty false).register "logout" fun _ =>
        return .integer 256)
      ⟨[], ⟨[], []⟩, ⟨false, false, none, false, [], some (.logout [])⟩, config⟩ session none
      .unlimited .unlimited default with ⟨code, hending, -, htells, -⟩
    have hone := (htells (.ok (.integer 256)) rfl).failure
      (by rintro ⟨_, h, hs⟩; cases h; cases hs)
      (by rintro value ⟨h, _, hhigh⟩; cases h; omega)
    rw [← hone]
    exact hending
  · rcases exit_code_tells_outcome ((Dispatcher.empty false).register "logout" fun _ =>
        return .ofJson (.number (.float (.zero false))))
      ⟨[], ⟨[], []⟩, ⟨false, false, none, false, [], some (.logout [])⟩, config⟩ session none
      .unlimited .unlimited default with ⟨code, hending, -, -, hdocument, -⟩
    rw [← (hdocument _ rfl).2 _ rfl (by rintro ⟨_, h, -⟩; cases h)]
    exact hending
  · have hparse : CommandLine.parse (ConfigArguments.split
        ["tcf", "--make-jobserver=/", "run", "false"]).withoutConfig =
          .ok ⟨false, false, some "/", false, [], some (.run ["false"])⟩ := by
      decide +kernel
    have hready : Ready s ["tcf", "--make-jobserver=/", "run", "false"]
        ⟨false, false, some "/", false, [], some (.run ["false"])⟩ default config [] :=
      ⟨rfl, rfl, .inr ⟨⟨[⟨none, none, [], .info⟩], .compact⟩, by decide +kernel⟩⟩
    rcases comes_of_ready hparse hready rfl rfl with ⟨session, m, hcomes⟩
    rcases exit_code_tells_outcome (Commands.dispatcher s.launcher false) _ session (some "/")
      .unlimited .unlimited m with ⟨code, -, -, -, -, hrun⟩
    rcases hrun s _ default hcomes rfl with ⟨hending, hprogram⟩
    rcases hprogram _ _ rfl with ⟨events, hthree⟩
    rw [hending, hthree]
    rfl

end Invocation

end BrokerClient
