import BrokerClient.Proofs.Handoff.Relaunching
import BrokerClient.Proofs.Invocation.Steps

/-!
# One Handoff

A run that has still to hand over never starts its program. It comes to the
decision with nothing done but removals, asks at most once to go on as make,
and is over whether that succeeds or not. If its handoff file cannot be created,
written or kept, it is over without having asked. Every other run makes no such
request, and adds files only through the program that it runs.

The request names a file with the command line of a second process. The second
process refuses this command line, or reads the handoff file in it. In neither
case does it have to hand over, so a chain of processes asks once.

## Main definitions

* `Machine.AsksOnce`: Nothing is launched, and at most one request is made.
* `Relaunch.IsHandedOverBy`: What a request to start a command line again looks like.
* `Invocation.NeverAsks`: No run with certain arguments makes a request.

## Theorems

* `Controller.run_delegate_recorded_cases`: Handing over asks at most once.
* `Invocation.asksOnce_run`: So does a run that has still to hand over.
* `Invocation.preserves_run`: What any other run does.
* `Invocation.parse_again`: The second process has the token of the handoff file.
* `Invocation.run_delegates_once`: What any run launches, asks for and leaves behind.
-/

namespace BrokerClient

open BrokerClient.Action (Frame Preserves)
open Machine (OnlyRemoves AddsNothing)

/-- The same surroundings, with requests that are told by the records of the
    machine. -/
def Surroundings.observed (s : Surroundings) : Surroundings :=
  ⟨s.load, s.launcher.sealed, s.replacer.recorded⟩

/-! ## Requests -/

namespace Machine

/-- Nothing is launched, and at most one request to go on as another program is
    made. -/
def AsksOnce (Q : Replacement → Prop) (m m' : Machine) : Prop :=
  m'.launches = m.launches ∧ (m'.replacements = m.replacements ∨
    ∃ call, Q call ∧ m'.replacements = m.replacements ++ [call])

variable {Q : Replacement → Prop} {m m' m'' : Machine}

theorem OnlyRemoves.asksOnce (h : OnlyRemoves m m') : AsksOnce Q m m' :=
  ⟨h.launches, .inl h.replacements⟩

theorem AsksOnce.of_before (h : OnlyRemoves m m') (hasks : AsksOnce Q m' m'') :
    AsksOnce Q m m'' := by
  unfold AsksOnce at hasks ⊢
  rw [h.launches, h.replacements] at hasks
  exact hasks

theorem AsksOnce.of_after (hasks : AsksOnce Q m m') (h : OnlyRemoves m' m'') :
    AsksOnce Q m m'' := by
  unfold AsksOnce
  rw [h.launches, h.replacements]
  exact hasks

end Machine

open Machine (AsksOnce)

/-- A request to have a command line started again under make: it names a file
    that holds the command line with the path of the file itself. -/
def Relaunch.IsHandedOverBy (r : Relaunch) (call : Replacement) : Prop :=
  ∃ handoff texts, call.arguments[2]? = some handoff ∧ handoff ≠ .empty ∧
    r.commandLine handoff = .ok texts ∧
    ∀ work, call.files.read work handoff = .ok (Utf8.encode (Relaunch.content texts).toList)

namespace Controller

/-- Handing over asks at most once, for the command line that is to be started
    again. A process that has handed over is gone. -/
theorem run_delegate_recorded_cases (c : Controller) (replacer : Replacer) (r : Relaunch)
    (m : Machine) :
    AsksOnce r.IsHandedOverBy m ((c.delegate replacer.recorded r).run m).2 ∧
      ∀ result, ((c.delegate replacer.recorded r).run m).1 = .ok result → result = .replaced := by
  rcases run_writeHandoff_cases c r m with ⟨e, nextName, answers, hwrite, -⟩ |
    ⟨path, place, name, text, hcreated, hmakefile, -, hwrite⟩
  · rw [run_delegate_of_error hwrite]
    exact ⟨⟨rfl, .inl rfl⟩, fun _ h => by cases h⟩
  · rcases Relaunch.makefile_eq_ok_iff.mp hmakefile with ⟨texts, htexts, rfl⟩
    -- By the time of the request the file is written, and nothing else has changed.
    have hcall : ∃ answer m₂, (replacer.recorded c.makeProgram (c.makeArguments path)).run
        (announced c path ((withFile m (place ++ [name])
          (Utf8.encode (Relaunch.content texts).toList)).answered 4)) = (answer, m₂) ∧
          AsksOnce r.IsHandedOverBy m m₂ :=
      ⟨_, _, Replacer.run_recorded _ _ _ _, rfl, .inr ⟨_, ⟨path, texts, rfl, hcreated.ne_empty,
        htexts, hcreated.read _⟩, rfl⟩⟩
    rcases hcall with ⟨answer, m₂, hcall, hasks⟩
    cases answer with
    | none =>
      rw [run_delegate_of_replaced hwrite hcall]
      exact ⟨hasks, fun _ h => (Except.ok.inj h).symm⟩
    | some source =>
      rcases run_delegate_of_refused hwrite hcall with ⟨m', hrun, hremoves, -⟩
      rw [hrun]
      exact ⟨hasks.of_after hremoves, fun _ h => by cases h⟩

end Controller

/-! ## Runs -/

namespace Invocation

variable {R : Machine → Machine → Prop} {arguments : List OsText} {line : CommandLine}

theorem relaunch_of_reads {p : Plan} (h : p.Reads arguments line) :
    p.relaunch = Relaunch.ofArguments arguments := by
  unfold Plan.relaunch Relaunch.ofArguments
  rw [h.arguments, h.parts]

/-- The decision, if there is a command line to hand over. -/
theorem spec_settleHandoff_handsOver (s : Surroundings) {p : Plan} (h : p.line.HandsOver) :
    Step.Spec (AsksOnce p.relaunch.IsHandedOverBy) (settleHandoff s.observed p)
      (· = .replaced) := by
  rcases h with ⟨⟨words, hrun⟩, hunset⟩
  have htoken : p.token = .unset := hunset
  unfold settleHandoff
  rw [hrun, htoken]
  refine .bind (R := OnlyRemoves) (Q := fun _ => True)
    (.act (.of_eq OnlyRemoves.frame fun _ => rfl) fun _ => trivial)
    (fun m _ => ?_) (fun _ _ => OnlyRemoves.asksOnce) fun _ _ _ => AsksOnce.of_before
  have hdelegate := Controller.run_delegate_recorded_cases (controller m p.config) s.replacer
    p.relaunch
  exact .ofAction _ (fun m' => (hdelegate m').1) fun m' => (hdelegate m').2

/-- A run that has still to hand over launches nothing and asks at most
    once. -/
theorem asksOnce_steps (s : Surroundings)
    (hparse : CommandLine.parse (ConfigArguments.split arguments).withoutConfig = .ok line)
    (h : line.HandsOver) (output errors : Sink) :
    Step.Spec (AsksOnce (Relaunch.ofArguments arguments).IsHandedOverBy)
      (steps s.observed arguments output errors) fun _ => True := by
  unfold steps
  refine .bind (spec_prepare _ hparse) (fun p hp => ?_) (fun _ _ => OnlyRemoves.asksOnce)
    fun _ _ _ => AsksOnce.of_before
  refine .bind (Q := fun _ => True) (.act (Session.onlyRemoves_start p.config) fun _ => trivial)
    (fun session _ => ?_) (fun _ _ => OnlyRemoves.asksOnce) fun _ _ _ => AsksOnce.of_before
  rw [← relaunch_of_reads hp]
  rw [← hp.line] at h
  -- The decision is the last step: if it does not fail, the process is gone.
  refine .bind (S := OnlyRemoves) (spec_settleHandoff_handsOver s h)
    (fun result hresult => ?_) (fun _ _ hasks => hasks) fun _ _ _ => AsksOnce.of_after
  rw [hresult]
  exact .pure OnlyRemoves.frame trivial

/-- Any other run does on the machine what the programs do that it runs. -/
theorem preserves_steps (hR : Frame R) (hweak : ∀ m m', OnlyRemoves m m' → R m m')
    {s : Surroundings}
    (hlauncher : ∀ program arguments, Preserves R (s.launcher.launch program arguments))
    (hparse : CommandLine.parse (ConfigArguments.split arguments).withoutConfig = .ok line)
    (h : ¬ line.HandsOver) (output errors : Sink) :
    Step.Spec R (steps s arguments output errors) fun _ => True := by
  unfold steps
  refine .chain hR ((spec_prepare s hparse).mono hweak) fun p hp => ?_
  refine .chain hR (Q := Session.IsSound) (.act ((Session.onlyRemoves_start p.config).mono hweak)
    (Session.isSound_start p.config)) fun session hsound => ?_
  rw [← hp.line] at h
  refine .chain hR ((spec_settleHandoff s h).mono hweak) fun result _ => ?_
  have hwork : ∀ lease, Step.Spec R (liftM (work s p session lease output errors) : Step Report)
      fun _ => True :=
    fun lease => .act (preserves_work hR hweak
      (fun program arguments _ => hlauncher program arguments) hsound lease output errors)
      fun _ => trivial
  cases result with
  | direct => exact hwork none
  | leased handoff => exact hwork (some handoff)
  | replaced => exact .pure hR trivial

theorem asksOnce_run (s : Surroundings)
    (hparse : CommandLine.parse (ConfigArguments.split arguments).withoutConfig = .ok line)
    (h : line.HandsOver) (output errors : Sink) :
    Preserves (AsksOnce (Relaunch.ofArguments arguments).IsHandedOverBy)
      (run s.observed arguments output errors) := by
  intro m
  rw [machine_run]
  exact (asksOnce_steps s hparse h output errors m).1

theorem preserves_run (hR : Frame R) (hweak : ∀ m m', OnlyRemoves m m' → R m m')
    {s : Surroundings}
    (hlauncher : ∀ program arguments, Preserves R (s.launcher.launch program arguments))
    (hparse : CommandLine.parse (ConfigArguments.split arguments).withoutConfig = .ok line)
    (h : ¬ line.HandsOver) (output errors : Sink) :
    Preserves R (run s arguments output errors) := by
  intro m
  rw [machine_run]
  exact (preserves_steps hR hweak hlauncher hparse h output errors m).1

/-- A command line that is refused changes nothing. -/
theorem run_of_refused (s : Surroundings) {e : Options.Error}
    (hparse : CommandLine.parse (ConfigArguments.split arguments).withoutConfig = .error e)
    (output errors : Sink) (m : Machine) :
    ((run s arguments output errors).run m).2 = m := by
  have hframe : Frame fun m m' : Machine => m' = m := ⟨fun _ => rfl, fun hab hbc => hbc.trans hab⟩
  have hread : Step.Spec (fun m m' => m' = m) (Step.ofAction .usage
      (pure (CommandLine.parse (ConfigArguments.split arguments).withoutConfig)))
      fun _ => False := by
    refine .ofAction _ (.pure hframe _) fun m a ha => ?_
    rw [Action.run_pure, hparse] at ha
    cases ha
  have hprepare : Step.Spec (fun m m' => m' = m) (prepare s arguments) fun _ => False :=
    .chain hframe hread fun _ hfalse => False.elim hfalse
  have hsteps : Step.Spec (fun m m' => m' = m) (steps s arguments output errors) fun _ => False :=
    .chain hframe hprepare fun _ hfalse => False.elim hfalse
  rw [machine_run]
  exact (hsteps m).1

/-- A program that a run launches makes no request for it. -/
theorem replacements_launch (launcher : Launcher) (program : OsText) (words : List OsText) :
    Preserves (fun m m' => m'.replacements = m.replacements)
      (launcher.sealed.launch program words) :=
  fun _ => rfl

theorem addsNothing_launch {P : Place → Prop} {launcher : Launcher}
    (h : ∀ program words, Preserves (AddsNothing P) (launcher program words)) (program : OsText)
    (words : List OsText) : Preserves (AddsNothing P) (launcher.sealed.launch program words) :=
  fun m => h program words { m with launches := m.launches ++ [program :: words] }

/-- A run without a command line to hand over adds files only as far as its
    program does. -/
theorem addsNothing_run {P : Place → Prop} {s : Surroundings}
    (hP : ∀ program words, Preserves (AddsNothing P) (s.launcher program words))
    (hparse : CommandLine.parse (ConfigArguments.split arguments).withoutConfig = .ok line)
    (h : ¬ line.HandsOver) (output errors : Sink) :
    Preserves (AddsNothing P) (run s.observed arguments output errors) := by
  have hlaunch : ∀ program words,
      Preserves (AddsNothing P) (s.observed.launcher.launch program words) := addsNothing_launch hP
  exact preserves_run (AddsNothing.frame P) (fun _ _ hremoves => hremoves.addsNothing P) hlaunch
    hparse h output errors

/-- No run with certain arguments asks to go on as another program. -/
def NeverAsks (arguments : List OsText) : Prop :=
  ∀ (s : Surroundings) (output errors : Sink) (m : Machine),
    ((run s.observed arguments output errors).run m).2.replacements = m.replacements

/-- A run without a command line to hand over makes no request. -/
theorem neverAsks_of_not_handsOver
    (h : ∀ line, CommandLine.parse (ConfigArguments.split arguments).withoutConfig = .ok line →
      ¬ line.HandsOver) : NeverAsks arguments := by
  intro s output errors m
  cases hparse : CommandLine.parse (ConfigArguments.split arguments).withoutConfig with
  | error e => rw [run_of_refused _ hparse]
  | ok line =>
    have hframe : Frame fun m m' : Machine => m'.replacements = m.replacements :=
      ⟨fun _ => rfl, fun hab hbc => hbc.trans hab⟩
    exact preserves_run hframe (fun _ _ hremoves => hremoves.replacements)
      (replacements_launch s.launcher) hparse (h line hparse) output errors m

/-! ## The second process -/

/-- The second process is refused, or it has the command of the first one and
    the token of the handoff file. -/
theorem parse_again {handoff : Path} {texts : List String}
    (hparse : CommandLine.parse (ConfigArguments.split arguments).withoutConfig = .ok line)
    (h : line.HandsOver) (hne : handoff ≠ .empty)
    (htexts : (Relaunch.ofArguments arguments).commandLine handoff = .ok texts) :
    let again := (ConfigArguments.split (texts.map OsText.ofString)).withoutConfig
    (∃ e, CommandLine.parse again = .error e ∧ e.isReport = false) ∨
      ∃ line', CommandLine.parse again = .ok line' ∧ line'.command = line.command ∧
        HandoffToken.ofFlags line'.makeJobserver line'.noMakeJobserver = .handoff handoff := by
  intro again
  rcases h with ⟨⟨words, hrun⟩, hunset⟩
  rcases Relaunch.parse_texts_cases hparse hrun hunset htexts with
    ⟨-, path, rfl, hrefused | hread⟩
  · exact .inl ⟨_, hrefused, rfl⟩
  · have hpath : path ≠ "" := by
      rintro rfl
      exact hne rfl
    exact .inr ⟨_, hread, rfl, Relaunch.ofFlags_handoff hunset hpath⟩

/-- Whatever happens in a run, its program is started under the job limit or
    not at all, and a command line is handed over once. A run that has still to
    hand over launches nothing and asks at most once. No other run asks, and it
    adds files only as far as its program does. The second process that was
    asked for is refused or has the token of the handoff file, and it does not
    ask again. -/
theorem run_delegates_once (s : Surroundings) (arguments : List OsText) (output errors : Sink)
    (m : Machine) :
    let after := ((run s.observed arguments output errors).run m).2
    let parsed := CommandLine.parse (ConfigArguments.split arguments).withoutConfig
    (∀ e, parsed = .error e → after = m) ∧
      (∀ line, parsed = .ok line → line.HandsOver →
        AsksOnce (Relaunch.ofArguments arguments).IsHandedOverBy m after ∧
        ∀ handoff texts, handoff ≠ .empty →
          (Relaunch.ofArguments arguments).commandLine handoff = .ok texts →
          let again := texts.map OsText.ofString
          let parsed' := CommandLine.parse (ConfigArguments.split again).withoutConfig
          ((∃ e, parsed' = .error e ∧ e.isReport = false) ∨ ∃ line', parsed' = .ok line' ∧
            line'.command = line.command ∧
            HandoffToken.ofFlags line'.makeJobserver line'.noMakeJobserver = .handoff handoff) ∧
          NeverAsks again) ∧
      ∀ line, parsed = .ok line → ¬ line.HandsOver →
        after.replacements = m.replacements ∧
        ∀ P, (∀ program words, Preserves (AddsNothing P) (s.launcher program words)) →
          AddsNothing P m after := by
  intro after parsed
  refine ⟨fun e hparse => run_of_refused _ hparse output errors m,
    fun line hparse h => ⟨asksOnce_run s hparse h output errors m, ?_⟩,
    fun line hparse h => ⟨?_, fun P hP => ?_⟩⟩
  · intro handoff texts hne htexts again parsed'
    have hagain := parse_again hparse h hne htexts
    -- Either way the second process has no unset token.
    refine ⟨hagain, neverAsks_of_not_handsOver fun line' hparse' h' => ?_⟩
    rcases hagain with ⟨e, he, -⟩ | ⟨line'', hline'', -, htoken⟩
    · rw [hparse'] at he
      cases he
    · rw [hparse'] at hline''
      rw [← Except.ok.inj hline'', h'.2] at htoken
      cases htoken
  · refine neverAsks_of_not_handsOver (fun line' hparse' => ?_) s output errors m
    have hline : line' = line := Except.ok.inj (hparse'.symm.trans hparse)
    rw [hline]
    exact h
  · exact addsNothing_run hP hparse h output errors m

/-- Without make, a program is not started. The second process that make would
    have started does not ask for make again. -/
theorem run_delegates_once_noMake :
    let config : Config := ⟨"/state", "/share", [], "info", .compact, 4, "make"⟩
    let s : Surroundings := ⟨fun _ _ => .ok config, fun _ _ => return .ok (.exited 0),
      fun _ _ => return some (.system .noEntry)⟩
    let m : Machine := { (default : Machine) with files := ⟨[(["tmp"], .directory 0o777)]⟩ }
    let after := ((run s.observed ["tcf", "run", "true"] .unlimited .unlimited).run m).2
    after.launches = [] ∧
      after.replacements.map (fun call => call.arguments.map OsText.shown) =
        [["-s", "-f", "/tmp/tcf-jobserver-000000.mk", "-j4", "tcf-jobserver-run"]] ∧
      NeverAsks (["tcf", "--make-jobserver=/tmp/h.mk", "run", "true"].map OsText.ofString) := by
  intro config s m after
  have hparse : CommandLine.parse (ConfigArguments.split ["tcf", "run", "true"]).withoutConfig =
      .ok ⟨false, false, none, false, [], some (.run ["true"])⟩ := by
    decide +kernel
  have htexts : (Relaunch.ofArguments ["tcf", "run", "true"]).commandLine "/tmp/h.mk" =
      .ok ["tcf", "--make-jobserver=/tmp/h.mk", "run", "true"] := by
    decide +kernel
  rcases (run_delegates_once s ["tcf", "run", "true"] .unlimited .unlimited m).2.1 _ hparse
    ⟨⟨_, rfl⟩, rfl⟩ with ⟨hasks, hagain⟩
  exact ⟨hasks.1, by decide +kernel, (hagain _ _ (by decide) htexts).2⟩

end Invocation

end BrokerClient
