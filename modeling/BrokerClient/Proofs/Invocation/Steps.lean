import BrokerClient.Invocation
import BrokerClient.Proofs.Dispatch.Commands
import BrokerClient.Proofs.Dispatch.Outcomes
import BrokerClient.Proofs.Handoff.Coordination

/-!
# The Steps of a Run

A step of a run may fail, and what it has done to the machine by then stays.
What a step does is told by a relation between the machines before and after
it, whether it fails or not, and by a condition on its result.

The steps before the decision about the handoff only remove. So does the
decision itself, unless there is a command line to hand over. The command does
on the machine what the programs do that it runs.

## Main definitions

* `CommandLine.HandsOver`: Whether a run has to be started again under make.
* `Invocation.Step.Spec`: What a step does.
* `Invocation.carryOut`: The command and the steps behind it, with any handlers.

## Theorems

* `Invocation.Step.Spec.bind`: One step after the other.
* `Invocation.spec_prepare`: What is known when everything has been read.
* `Invocation.spec_settleHandoff`: The decision, with nothing to hand over.
* `Invocation.preserves_work`: The command and the steps behind it.
* `Invocation.report_carryOut`: What is reported when the command has ended.
* `Invocation.machine_run`: A run leaves behind what its steps do.
-/

namespace BrokerClient

/-- Whether a command line is that of a run that has still to hand over to
    make: it asks for a program, and no flag settles the token. -/
def CommandLine.HandsOver (line : CommandLine) : Prop :=
  (∃ words, line.command = some (.run words)) ∧
    HandoffToken.ofFlags line.makeJobserver line.noMakeJobserver = .unset

namespace Invocation

open BrokerClient.Action (Frame Preserves)
open Machine (OnlyRemoves)

variable {α β : Type} {R S T : Machine → Machine → Prop}

/-- What a step does: a relation between the machines before and after it,
    and a condition on its result if it succeeds. -/
def Step.Spec (R : Machine → Machine → Prop) (x : Step α) (Q : α → Prop) : Prop :=
  ∀ m, R m (x.run.run m).2 ∧ ∀ a, (x.run.run m).1 = .ok a → Q a

theorem run_act (x : Action α) (m : Machine) :
    (liftM x : Step α).run.run m = (.ok (x.run m).1, (x.run m).2) := rfl

theorem run_ofAction {ε : Type} (wrap : ε → InvocationError) (x : Action (Except ε α))
    (m : Machine) :
    (Step.ofAction wrap x).run.run m = ((x.run m).1.mapError wrap, (x.run m).2) := by
  unfold Step.ofAction
  rw [ExceptT.run_bind, Action.run_bind, run_act]
  cases (x.run m).1 <;> rfl

/-- A step that succeeds is followed by the next one. -/
theorem run_bind_ok {x : Step α} {f : α → Step β} {a : α} {m m' : Machine}
    (h : x.run.run m = (.ok a, m')) : (x >>= f).run.run m = (f a).run.run m' := by
  rw [ExceptT.run_bind, Action.run_bind, h]

/-- A step that fails is the last one. -/
theorem run_bind_error {x : Step α} {f : α → Step β} {e : InvocationError} {m m' : Machine}
    (h : x.run.run m = (.error e, m')) : (x >>= f).run.run m = (.error e, m') := by
  rw [ExceptT.run_bind, Action.run_bind, h]
  rfl

theorem run_ofAction_ok {ε : Type} (wrap : ε → InvocationError) {x : Action (Except ε α)} {a : α}
    {m m' : Machine} (h : x.run m = (.ok a, m')) :
    (Step.ofAction wrap x).run.run m = (.ok a, m') := by
  rw [run_ofAction, h]
  rfl

theorem run_ofAction_error {ε : Type} (wrap : ε → InvocationError) {x : Action (Except ε α)}
    {e : ε} {m m' : Machine} (h : x.run m = (.error e, m')) :
    (Step.ofAction wrap x).run.run m = (.error (wrap e), m') := by
  rw [run_ofAction, h]
  rfl

namespace Step.Spec

variable {Q : α → Prop} {Q' : β → Prop} {x : Step α}

theorem pure (hR : Frame R) {a : α} (h : Q a) : Step.Spec R (Pure.pure a : Step α) Q := by
  intro m
  refine ⟨hR.refl m, fun b hb => ?_⟩
  rw [← Except.ok.inj hb]
  exact h

/-- One step after the other. The second one begins only if the first one
    succeeds. -/
theorem bind {x : Step α} {f : α → Step β} (hx : Step.Spec R x Q)
    (hf : ∀ a, Q a → Step.Spec S (f a) Q') (hfirst : ∀ m m', R m m' → T m m')
    (hboth : ∀ m m' m'', R m m' → S m' m'' → T m m'') : Step.Spec T (x >>= f) Q' := by
  intro m
  rcases hx m with ⟨hR, hQ⟩
  rw [ExceptT.run_bind, Action.run_bind]
  cases hr : (x.run.run m).1 with
  | error e =>
    refine ⟨hfirst _ _ hR, fun b hb => ?_⟩
    cases hb
  | ok a =>
    rcases hf a (hQ a hr) (x.run.run m).2 with ⟨hS, hQ'⟩
    exact ⟨hboth _ _ _ hR hS, hQ'⟩

/-- A step that is an action which may fail. -/
theorem ofAction {ε : Type} (wrap : ε → InvocationError) {x : Action (Except ε α)}
    (hx : Preserves R x) (hQ : ∀ m a, (x.run m).1 = .ok a → Q a) :
    Step.Spec R (Step.ofAction wrap x) Q := by
  intro m
  rw [run_ofAction]
  exact ⟨hx m, fun a ha => hQ m a (eq_ok_of_mapError_eq_ok ha)⟩

theorem mono (h : Step.Spec R x Q) (hRS : ∀ m m', R m m' → S m m') : Step.Spec S x Q :=
  fun m => ⟨hRS _ _ (h m).1, (h m).2⟩

/-- One step after the other, with a relation that can be chained. -/
theorem chain (hR : Frame R) {x : Step α} {f : α → Step β} (hx : Step.Spec R x Q)
    (hf : ∀ a, Q a → Step.Spec R (f a) Q') : Step.Spec R (x >>= f) Q' :=
  bind hx hf (fun _ _ h => h) fun _ _ _ => hR.trans

/-- A step that is an action. -/
theorem act {x : Action α} (hx : Preserves R x) (hQ : ∀ m, Q (x.run m).1) :
    Step.Spec R (liftM x : Step α) Q := by
  intro m
  refine ⟨hx m, fun a ha => ?_⟩
  rw [← Except.ok.inj ha]
  exact hQ m

end Step.Spec

/-! ## Before the session -/

theorem onlyRemoves_inject (texts : List String) :
    Preserves OnlyRemoves (Assignment.inject texts) := by
  unfold Assignment.inject
  split
  · exact .pure OnlyRemoves.frame _
  · next assignments _ =>
    refine .bind OnlyRemoves.frame ?_ fun _ => .pure OnlyRemoves.frame _
    refine .forM OnlyRemoves.frame fun a => ?_
    exact .bind OnlyRemoves.frame (Action.onlyRemoves_log _ _ _ _) fun _ _ => .of_eq rfl rfl rfl rfl

theorem onlyRemoves_settleLogger (config : Config) (debug : Bool) :
    Preserves OnlyRemoves (settleLogger config debug) := by
  intro m
  unfold settleLogger
  rw [Action.run_bind, Action.run_get]
  split
  · exact OnlyRemoves.frame.refl m
  · split
    · exact .of_eq rfl rfl rfl rfl
    · exact OnlyRemoves.frame.refl m

/-- What is known about the command line when everything has been read. -/
structure Plan.Reads (words : List OsText) (read : CommandLine) (p : Plan) : Prop where
  arguments : p.arguments = words
  parts : p.parts = ConfigArguments.split words
  line : p.line = read

/-- The steps before the session only remove. -/
theorem spec_prepare (s : Surroundings) {arguments : List OsText} {line : CommandLine}
    (hparse : CommandLine.parse (ConfigArguments.split arguments).withoutConfig = .ok line) :
    Step.Spec OnlyRemoves (prepare s arguments) (Plan.Reads arguments line) := by
  unfold prepare
  have hread : Step.Spec OnlyRemoves (Step.ofAction .usage
      (pure (CommandLine.parse (ConfigArguments.split arguments).withoutConfig))) (· = line) := by
    refine .ofAction _ (.pure OnlyRemoves.frame _) fun m a ha => ?_
    rw [Action.run_pure, hparse] at ha
    exact (Except.ok.inj ha).symm
  -- The steps behind the reading do not change what was read.
  refine .chain OnlyRemoves.frame hread fun read hread => ?_
  refine .chain OnlyRemoves.frame (Q := fun _ => True)
    (.ofAction _ (.of_eq OnlyRemoves.frame fun _ => rfl) fun _ _ _ => trivial) fun config _ => ?_
  refine .chain OnlyRemoves.frame (Q := fun _ => True)
    (.ofAction _ (onlyRemoves_inject _) fun _ _ _ => trivial) fun _ _ => ?_
  refine .chain OnlyRemoves.frame (Q := fun _ => True)
    (.ofAction _ (onlyRemoves_settleLogger _ _) fun _ _ _ => trivial) fun _ _ => ?_
  exact .pure OnlyRemoves.frame ⟨rfl, rfl, hread⟩

/-! ## The decision -/

/-- With nothing to hand over, the decision only removes. -/
theorem spec_settleHandoff (s : Surroundings) {p : Plan} (h : ¬ p.line.HandsOver) :
    Step.Spec OnlyRemoves (settleHandoff s p) fun _ => True := by
  unfold settleHandoff
  split
  · next words hrun =>
    refine .chain OnlyRemoves.frame (Q := fun _ => True)
      (.act (.of_eq OnlyRemoves.frame fun _ => rfl) fun _ => trivial) fun m _ => ?_
    refine .ofAction _ (fun m' => ?_) fun _ _ _ => trivial
    -- With a token that is settled the controller only logs.
    cases htoken : p.token with
    | unset => exact absurd ⟨⟨words, hrun⟩, htoken⟩ h
    | disabled =>
      rcases Controller.run_coordinate_disabled (controller m p.config) s.replacer p.relaunch m'
        with ⟨events, hcoordinate⟩
      rw [hcoordinate]
      exact .of_eq rfl rfl rfl rfl
    | handoff path =>
      rcases Controller.run_coordinate_handoff (controller m p.config) s.replacer path p.relaunch m'
        with ⟨events, hcoordinate⟩
      rw [hcoordinate]
      exact .of_eq rfl rfl rfl rfl
  · exact .pure OnlyRemoves.frame trivial

/-! ## The command -/

theorem onlyRemoves_settle (result : CommandResult) : Preserves OnlyRemoves result.settle := by
  unfold CommandResult.settle
  split
  · exact Action.onlyRemoves_logged _ _ _ _ _
  · exact .pure OnlyRemoves.frame _

theorem onlyRemoves_closeSession {session : Session} (h : session.IsSound) :
    Preserves OnlyRemoves (closeSession session) := by
  unfold closeSession
  refine .bind OnlyRemoves.frame (Session.onlyRemoves_close h) fun r => ?_
  cases r with
  | ok u => exact .pure OnlyRemoves.frame _
  | error e => exact Action.onlyRemoves_log _ _ _ _

/-- The command does on the machine what the program does that it runs, and the
    steps behind it only remove. -/
theorem preserves_work (hR : Frame R) (hweak : ∀ m m', OnlyRemoves m m' → R m m')
    {s : Surroundings} {p : Plan}
    (hlauncher : ∀ program arguments, p.line.command = some (.run (program :: arguments)) →
      Preserves R (s.launcher.launch program arguments)) {session : Session}
    (hsound : session.IsSound) (lease : Option Path) (output errors : Sink) :
    Preserves R (work s p session lease output errors) := by
  intro m
  unfold work
  rw [Action.run_bind, Action.run_get, Action.run_bind]
  -- What stands behind the command needs a session that is still sound.
  rcases Commands.spec_dispatcher hR hweak hlauncher p.line.traces
    ⟨p.config, Discovery.files m p.parts.configArguments, session, output, errors⟩ m hsound with
    ⟨hdispatch, hsound'⟩
  refine hR.trans hdispatch ?_
  refine Preserves.bind hR ((onlyRemoves_settle _).mono hweak) (fun status => ?_) _
  -- The lease ends before the session is closed, and without one nothing is in between.
  have hclose := (onlyRemoves_closeSession hsound').mono hweak
  cases lease with
  | some handoff =>
    refine .bind hR ((Controller.onlyRemoves_releaseLease handoff).mono hweak) fun _ => ?_
    exact .bind hR hclose fun _ => .pure hR _
  | none => exact .bind hR hclose fun _ => .pure hR _

/-- The command and the steps behind it, with the handlers of any dispatcher. -/
def carryOut (d : Dispatcher) (p : Plan) (session : Session) (lease : Option Path)
    (output errors : Sink) : Action Report := do
  let configFiles := Discovery.files (← get) p.parts.configArguments
  let (result, c) ←
    (d.dispatch p.line.command).run ⟨p.config, configFiles, session, output, errors⟩
  let status ← result.settle
  match lease with
  | some handoff => Controller.releaseLease handoff
  | none => pure ()
  closeSession c.session
  return ⟨.exited (exitCode status), c.output, c.errors⟩

theorem work_eq_carryOut (s : Surroundings) (p : Plan) (session : Session) (lease : Option Path)
    (output errors : Sink) :
    work s p session lease output errors =
      carryOut (Commands.dispatcher s.launcher p.line.traces) p session lease output errors := rfl

/-- What is reported is what the command has done when it ends. Neither the lease
    nor the session have a part in it. -/
theorem report_carryOut (d : Dispatcher) (p : Plan) (session : Session) (lease : Option Path)
    (output errors : Sink) (m : Machine) :
    let ended := ((d.dispatch p.line.command).run
      ⟨p.config, Discovery.files m p.parts.configArguments, session, output, errors⟩).run m
    ((carryOut d p session lease output errors).run m).1 =
      ⟨.exited (exitCode ended.1.1.exitStatus), ended.1.2.output, ended.1.2.errors⟩ := by
  intro ended
  unfold carryOut
  rw [Action.run_bind, Action.run_get, Action.run_bind]
  simp only
  rw [Action.run_bind, CommandResult.result_settle]
  cases lease <;> rfl

/-! ## The whole -/

theorem report_of_steps {s : Surroundings} {arguments : List OsText} {output errors : Sink}
    {m : Machine} {report : Report}
    (h : ((steps s arguments output errors).run.run m).1 = .ok report) :
    ((run s arguments output errors).run m).1 = report := by
  unfold run
  rw [Action.run_bind, h]
  rfl

theorem report_of_steps_error {s : Surroundings} {arguments : List OsText} {output errors : Sink}
    {m : Machine} {e : InvocationError}
    (h : ((steps s arguments output errors).run.run m).1 = .error e) :
    ((run s arguments output errors).run m).1 = reportError output errors e := by
  unfold run
  rw [Action.run_bind, h]
  rfl

/-- A run leaves behind what its steps do. -/
theorem machine_run (s : Surroundings) (arguments : List OsText) (output errors : Sink)
    (m : Machine) :
    ((run s arguments output errors).run m).2 =
      ((steps s arguments output errors).run.run m).2 := by
  unfold run
  rw [Action.run_bind]
  split <;> rfl

end Invocation

end BrokerClient
