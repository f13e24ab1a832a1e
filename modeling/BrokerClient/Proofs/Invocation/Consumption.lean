import BrokerClient.Proofs.Files.Remaining
import BrokerClient.Proofs.Invocation.Preparation
import Mathlib.Control.Monad.Basic

/-!
# The End of a Handoff File

The second process of a handoff is to remove the handoff file. It holds the lease
on it while its command runs, and how the command ends makes no difference: the
file is gone when the run is over, unless it was gone before.

The lease begins behind the steps that read everything. A run that ends in one of
those steps never holds it and leaves the file where it is. So the file is
removed exactly if nothing stands in the way of the command
(`handoff_removed_iff`).

## Main definitions

* `Machine.at?`: What is under a path.
* `Machine.KeepsOrLoses`: Under a path is what was there, or nothing any more.

## Theorems

* `Controller.at?_releaseLease`: The end of a lease leaves nothing under its path.
* `Invocation.at?_work`: Nor does a command that leaves its handoff file alone.
* `Invocation.handoff_removed_iff`: When a handoff file is removed.
* `Invocation.handoff_left_behind`: A malformed assignment leaves it behind.
-/

namespace BrokerClient

open BrokerClient.Action (Frame Preserves)
open Machine (OnlyRemoves)

namespace Machine

variable {path : Path} {m m' : Machine}

/-- What is under a path, seen from the working directory. -/
def at? (m : Machine) (path : Path) : Option Node := m.files.stat? m.workDirectory path

/-- Under a path is what was there, or nothing any more. -/
structure KeepsOrLoses (path : Path) (m m' : Machine) : Prop where
  workDirectory : m'.workDirectory = m.workDirectory
  node : m'.at? path = none ∨ m'.at? path = m.at? path

theorem KeepsOrLoses.frame (path : Path) : Frame (KeepsOrLoses path) where
  refl := fun _ => ⟨rfl, .inr rfl⟩
  trans := by
    rintro a b c ⟨hwork, hnode⟩ ⟨hwork', hnode'⟩
    refine ⟨hwork'.trans hwork, ?_⟩
    rcases hnode' with hnone | hsame
    · exact .inl hnone
    · rw [hsame]
      exact hnode

theorem OnlyRemoves.at?_eq_none (h : OnlyRemoves m m') (hnone : m.at? path = none) :
    m'.at? path = none := by
  unfold at? at hnone ⊢
  rw [h.workDirectory]
  exact FileTree.stat?_eq_none_of_isWithin h.files hnone

theorem OnlyRemoves.keepsOrLoses (h : OnlyRemoves m m') : KeepsOrLoses path m m' := by
  refine ⟨h.workDirectory, ?_⟩
  cases hnode : m'.at? path with
  | none => exact .inl rfl
  | some node =>
    unfold at? at hnode ⊢
    rw [h.workDirectory] at hnode
    exact .inr (FileTree.stat?_of_isWithin h.files hnode).symm

/-- A handoff file is under a path, or nothing is. -/
def HoldsFileOrNothing (m : Machine) (path : Path) : Prop :=
  ∀ node, m.at? path = some node → ∃ content mode, node = .file content mode

theorem KeepsOrLoses.holdsFileOrNothing (h : KeepsOrLoses path m m')
    (hfile : m.HoldsFileOrNothing path) : m'.HoldsFileOrNothing path := by
  intro node hnode
  rcases h.node with hnone | hsame
  · rw [hnone] at hnode
    cases hnode
  · exact hfile node (hsame ▸ hnode)

end Machine

open Machine (KeepsOrLoses HoldsFileOrNothing)

/-- A path that does not end in `..`. -/
def Path.EndsInName (path : Path) : Prop :=
  ∃ front last, Path.segments path.bytes = front ++ [last] ∧ last ≠ [Path.dot, Path.dot]

namespace Controller

/-- The end of a lease leaves nothing under its path. -/
theorem at?_releaseLease {path : Path} {m : Machine} (hpath : path.EndsInName)
    (hfile : m.HoldsFileOrNothing path) : ((releaseLease path).run m).2.at? path = none := by
  have hremoves := onlyRemoves_releaseLease path m
  cases hnode : m.at? path with
  | none => exact hremoves.at?_eq_none hnode
  | some node =>
    rcases hfile node hnode with ⟨content, mode, rfl⟩
    rcases FileTree.stat?_eq_some_iff.mp hnode with ⟨place, hlocate, hplace⟩
    rcases hpath with ⟨front, last, hsegments, hdots⟩
    rcases FileTree.leadsTo_of_file hsegments hdots hlocate hplace with ⟨directory, hleads, rfl⟩
    unfold Machine.at?
    rw [hremoves.workDirectory, files_releaseLease_eq, run_removeHandoff (hleads.remove hplace)]
    have hgone := hleads.pathExists_erase (FileTree.isDirectoryAt_of_file hplace)
    unfold FileTree.pathExists at hgone
    exact Option.isSome_eq_false_iff.mp hgone |> Option.isNone_iff_eq_none.mp

end Controller

namespace Invocation

variable {s : Surroundings} {path : Path} {arguments : List OsText} {line : CommandLine}
  {m : Machine}

/-- A command that leaves its handoff file alone, and the end of its lease, leave
    nothing under the path of the file. -/
theorem at?_work {p : Plan} {session : Session} (hsound : session.IsSound)
    (hlauncher : ∀ program words, p.line.command = some (.run (program :: words)) →
      Preserves (KeepsOrLoses path) (s.launcher.launch program words))
    (hpath : path.EndsInName) (hfile : m.HoldsFileOrNothing path) (output errors : Sink) :
    ((work s p session (some path) output errors).run m).2.at? path = none := by
  have hweak : ∀ m m', OnlyRemoves m m' → KeepsOrLoses path m m' := fun _ _ h => h.keepsOrLoses
  unfold work
  rw [Action.run_bind, Action.run_get, Action.run_bind]
  rcases Commands.spec_dispatcher (KeepsOrLoses.frame path) hweak hlauncher p.line.traces
    ⟨p.config, Discovery.files m p.parts.configArguments, session, output, errors⟩
    m hsound with ⟨hdispatch, hsound'⟩
  have hfile' := hdispatch.holdsFileOrNothing hfile
  rw [Action.run_bind, Action.run_bind]
  -- Behind the lease the session is closed, which brings nothing back.
  refine (onlyRemoves_closeSession hsound' _).at?_eq_none (Controller.at?_releaseLease hpath ?_)
  exact ((onlyRemoves_settle _).mono hweak _).holdsFileOrNothing hfile'

/-- A program that leaves a file alone leaves it alone when it is launched. -/
theorem keepsOrLoses_launch {launcher : Launcher} {program : OsText} {words : List OsText}
    (h : ∀ m, ((launcher program words).run m).2.workDirectory = m.workDirectory ∧
      ((launcher program words).run m).2.at? path = m.at? path) :
    Preserves (KeepsOrLoses path) (launcher.launch program words) := by
  intro m
  rcases h { m with launches := m.launches ++ [program :: words] } with ⟨hwork, hnode⟩
  exact ⟨hwork, .inr hnode⟩

/-- With the token of a handoff file the command is carried out, under a lease. -/
theorem run_settleHandoff_leased {p : Plan} {words : List OsText}
    (hrun : p.line.command = some (.run words)) (htoken : p.token = .handoff path) :
    ∃ events, (settleHandoff s p).run.run m = (.ok (.leased path), { m with events }) := by
  rcases Controller.run_coordinate_handoff (controller m p.config) s.replacer path p.relaunch m
    with ⟨events, hcoordinate⟩
  refine ⟨events, ?_⟩
  unfold settleHandoff
  rw [hrun]
  simp only
  rw [htoken]
  exact run_ofAction_ok .handoff hcoordinate

/-- If nothing stands in the way of the command, it is carried out under a lease
    on the handoff file, and what came before has not added anything. -/
theorem exists_work_of_ready {config : Config} {assignments : List Assignment}
    {words : List OsText}
    (hparse : CommandLine.parse (ConfigArguments.split arguments).withoutConfig = .ok line)
    (hready : Ready s arguments line m config assignments)
    (hrun : line.command = some (.run words))
    (htoken : HandoffToken.ofFlags line.makeJobserver line.noMakeJobserver = .handoff path)
    (output errors : Sink) :
    ∃ session m₁, session.IsSound ∧ OnlyRemoves m m₁ ∧
      ((steps s arguments output errors).run.run m).2 =
        ((work s (planned arguments line config) session (some path) output errors).run m₁).2 := by
  rcases run_steps_of_ready hparse hready output errors with ⟨events, logger, hsteps⟩
  have hbefore : OnlyRemoves m (m.assigned assignments events logger) := .of_eq rfl rfl rfl rfl
  have hstart := Session.onlyRemoves_start config (m.assigned assignments events logger)
  have hsound := Session.isSound_start config (m.assigned assignments events logger)
  generalize (Session.start config).run (m.assigned assignments events logger) = started
    at hsteps hstart hsound
  rcases run_settleHandoff_leased (s := s) (m := started.2) (p := planned arguments line config)
    hrun htoken with ⟨events', hsettle⟩
  have hafter : OnlyRemoves started.2 { started.2 with events := events' } :=
    .of_eq rfl rfl rfl rfl
  refine ⟨started.1, { started.2 with events := events' }, hsound,
    OnlyRemoves.frame.trans hbefore (OnlyRemoves.frame.trans hstart hafter), ?_⟩
  unfold proceed at hsteps
  rw [hsteps, run_bind_ok hsettle]
  rfl

/-- A run that ends before its command leaves all files as they were. -/
theorem files_steps_of_not_ready
    (hparse : CommandLine.parse (ConfigArguments.split arguments).withoutConfig = .ok line)
    (h : ¬∃ config assignments, Ready s arguments line m config assignments)
    (output errors : Sink) :
    ((steps s arguments output errors).run.run m).2.files = m.files ∧
      ((steps s arguments output errors).run.run m).2.workDirectory = m.workDirectory := by
  rcases run_prepare_error hparse h with ⟨e, environment, events, hprepare⟩
  unfold steps
  rw [run_bind_error hprepare]
  exact ⟨rfl, rfl⟩

/-- A path where a file is found ends in a name. -/
theorem endsInName_of_isFile (hrooted : m.files.IsRooted)
    (hfile : m.files.isFile m.workDirectory path = true) : path.EndsInName := by
  rcases FileTree.isFile_iff.mp hfile with ⟨content, mode, hstat⟩
  rcases FileTree.stat?_eq_some_iff.mp hstat with ⟨place, hlocate, hnode⟩
  rcases FileTree.exists_segments path with ⟨front, last, hsegments⟩
  exact ⟨front, last, hsegments, FileTree.ne_dots_of_file hrooted hsegments hlocate hnode⟩

/-- A run with the token of a handoff file removes the file exactly if nothing
    stands in the way of its command: the configuration is loaded, all
    assignments are well formed, and so is the log filter. How the command ends
    makes no difference, as long as it leaves the file alone. A run that ends
    before its command leaves all files as they were. -/
theorem handoff_removed_iff {words : List OsText}
    (hparse : CommandLine.parse (ConfigArguments.split arguments).withoutConfig = .ok line)
    (hrun : line.command = some (.run words))
    (htoken : HandoffToken.ofFlags line.makeJobserver line.noMakeJobserver = .handoff path)
    (hrooted : m.files.IsRooted) (hfile : m.files.isFile m.workDirectory path = true)
    (huntouched : ∀ program rest, words = program :: rest → ∀ m,
      ((s.launcher program rest).run m).2.workDirectory = m.workDirectory ∧
        ((s.launcher program rest).run m).2.at? path = m.at? path) (output errors : Sink) :
    let after := ((run s arguments output errors).run m).2
    let ready := ∃ config assignments, Ready s arguments line m config assignments
    (after.files.pathExists after.workDirectory path = false ↔ ready) ∧
      (¬ready → after.files = m.files ∧ after.workDirectory = m.workDirectory) := by
  intro after ready
  have hleft : ¬ready → after.files = m.files ∧ after.workDirectory = m.workDirectory := by
    intro h
    rw [show after = _ from machine_run s arguments output errors m]
    exact files_steps_of_not_ready hparse h output errors
  rcases FileTree.isFile_iff.mp hfile with ⟨content, mode, hstat⟩
  refine ⟨⟨fun hgone => Classical.byContradiction fun h => ?_, ?_⟩, hleft⟩
  · rcases hleft h with ⟨hfiles, hwork⟩
    unfold FileTree.pathExists at hgone
    rw [hfiles, hwork, hstat] at hgone
    cases hgone
  · rintro ⟨config, assignments, hready⟩
    rcases exists_work_of_ready hparse hready hrun htoken output errors with
      ⟨session, m₁, hsound, hremoves, hsteps⟩
    -- Starting the session may have removed the file already, but has put nothing else there.
    have hfile₁ : m₁.HoldsFileOrNothing path := by
      refine hremoves.keepsOrLoses.holdsFileOrNothing fun node hnode => ?_
      exact ⟨content, mode, Option.some.inj (hnode.symm.trans hstat)⟩
    have hlaunch : ∀ program rest, line.command = some (.run (program :: rest)) →
        Preserves (KeepsOrLoses path) (s.launcher.launch program rest) := by
      intro program rest hrun'
      cases hrun.symm.trans hrun'
      exact keepsOrLoses_launch (huntouched program rest rfl)
    have hgone := at?_work (p := planned arguments line config) hsound hlaunch
      (endsInName_of_isFile hrooted hfile) hfile₁ output errors
    rw [← hsteps, ← machine_run] at hgone
    exact congrArg Option.isSome hgone

/-- The second process removes its handoff file after a command that fails. -/
theorem handoff_removed_failedCommand :
    let config : Config := ⟨"/state", "/share", [], "info", .compact, 4, "make"⟩
    let s : Surroundings := ⟨fun _ _ => .ok config, fun _ _ => return .ok (.exited 3),
      fun _ _ => return some (.system .noEntry)⟩
    let m : Machine := { (default : Machine) with
      files := ⟨[(["tmp", "h.mk"], .file [] 0o600), (["tmp"], .directory 0o777)]⟩
      logger := some ⟨[], .compact⟩ }
    let arguments : List OsText := ["tcf", "--make-jobserver=/tmp/h.mk", "-e", "A=1", "run", "false"]
    let after := ((run s arguments .unlimited .unlimited).run m).2
    m.files.isFile m.workDirectory "/tmp/h.mk" = true ∧
      after.files.pathExists after.workDirectory "/tmp/h.mk" = false := by
  intro config s m arguments after
  have hparse : CommandLine.parse (ConfigArguments.split arguments).withoutConfig =
      .ok ⟨false, false, some "/tmp/h.mk", false, ["A=1"], some (.run ["false"])⟩ := by
    decide +kernel
  have hfile : m.files.isFile m.workDirectory "/tmp/h.mk" = true := by decide +kernel
  have hrooted : m.files.IsRooted := FileTree.isRooted_of_all (by decide +kernel)
  refine ⟨hfile, ?_⟩
  exact (handoff_removed_iff (s := s) hparse rfl rfl hrooted hfile (fun _ _ _ _ => ⟨rfl, rfl⟩)
    .unlimited .unlimited).1.mpr ⟨config, [⟨['A'], ['1']⟩], rfl, rfl, .inl rfl⟩

/-- A malformed assignment leaves the handoff file behind, although the command
    line says that this process is to remove it. -/
theorem handoff_left_behind :
    let config : Config := ⟨"/state", "/share", [], "info", .compact, 4, "make"⟩
    let s : Surroundings := ⟨fun _ _ => .ok config, fun _ _ => return .ok (.exited 0),
      fun _ _ => return some (.system .noEntry)⟩
    let m : Machine := { (default : Machine) with
      files := ⟨[(["tmp", "h.mk"], .file [] 0o600), (["tmp"], .directory 0o777)]⟩ }
    let arguments : List OsText := ["tcf", "--make-jobserver=/tmp/h.mk", "-e", "=x", "run", "true"]
    let after := ((run s arguments .unlimited .unlimited).run m).2
    CommandLine.parse (ConfigArguments.split arguments).withoutConfig =
        .ok ⟨false, false, some "/tmp/h.mk", false, ["=x"], some (.run ["true"])⟩ ∧
      m.files.isFile m.workDirectory "/tmp/h.mk" = true ∧
      after.files.pathExists after.workDirectory "/tmp/h.mk" = true := by
  intro config s m arguments after
  have hparse : CommandLine.parse (ConfigArguments.split arguments).withoutConfig =
      .ok ⟨false, false, some "/tmp/h.mk", false, ["=x"], some (.run ["true"])⟩ := by
    decide +kernel
  have hfile : m.files.isFile m.workDirectory "/tmp/h.mk" = true := by decide +kernel
  refine ⟨hparse, hfile, ?_⟩
  have hmalformed : ["=x"].mapM Assignment.parse = .error (.missingKey "=x") := rfl
  have hunready : ¬∃ config assignments, Ready s arguments
      ⟨false, false, some "/tmp/h.mk", false, ["=x"], some (.run ["true"])⟩ m config
        assignments := by
    rintro ⟨config', assignments, hready⟩
    cases hmalformed.symm.trans hready.assigns
  rcases files_steps_of_not_ready hparse hunready .unlimited .unlimited with ⟨hfiles, hwork⟩
  rw [show after = _ from machine_run s arguments .unlimited .unlimited m, hfiles, hwork]
  decide +kernel

end Invocation

end BrokerClient
