import BrokerClient.Handoff.Concurrent
import BrokerClient.Proofs.Handoff.Coordination
import Mathlib.Data.List.Nodup
import Mathlib.Logic.Relation

/-!
# Handoff Files Have One Owner

Handoffs that run at the same time share a directory, and a name that was
removed may be taken again. Still no handoff ever touches the file of another
one. What carries this over all interleavings is ownership: every handoff in
progress has a file at the place where it was created, its absolute path leads
there from everywhere, and no other handoff has that place.

A new file takes a free place, where no owned file is. A removal takes away the
file of its own handoff, and with that the handoff is over, so a path whose name
is free again is known to no process. Whatever happens at one place leaves the
ways to all others as they are, since the directories on them stay.

That `Controller` works in these steps is shown for each of its functions: what
they leave behind when nothing comes between is what some steps leave behind.

## Main definitions

* `Concurrent.Owns`: The file of a handoff is where its path leads, and says what it should.
* `Concurrent.Scene.IsOwned`: Each handoff owns its file, and no two of them own the same.

## Theorems

* `Concurrent.isOwned_of_step`: Every step keeps the files with their owners.
* `Concurrent.reachable_isOwned`: So they always are with them.
* `Concurrent.handoffs_keep_apart`: No handoff touches the file of another one.
* `Concurrent.steps_writeHandoff`, `Concurrent.steps_delegate`, `Concurrent.step_releaseLease`:
  The functions take these steps.
-/

namespace BrokerClient

namespace Concurrent

open FileTree (LeadsTo KeepsDirectories)

/-! ## Ownership -/

/-- The file of a handoff is where it was created, and its path leads there. Once
    the makefile is written, it is what the file holds. -/
structure Owns (files : FileTree) (j : Job) : Prop where
  isAbsolute : Path.isAbsolute j.path = true
  leads : ∃ front directory name, LeadsTo files [] j.path front directory name ∧
    j.place = directory ++ [name]
  file : ∃ content, files.node? j.place = some (.file content Controller.fileMode)
  written : j.phase ≠ .created → ∃ text, j.relaunch.makefile j.path = .ok text ∧
    files.node? j.place = some (.file (Utf8.encode text.toList) Controller.fileMode)

/-- Every handoff in progress owns its file, and no two of them own the same. -/
structure Scene.IsOwned (here : Scene) : Prop where
  owns : ∀ j ∈ here.jobs, Owns here.files j
  apart : (here.jobs.map Job.place).Nodup

variable {files files' : FileTree} {j : Job} {place : Place}

theorem Owns.leadsTo (h : Owns files j) (work : Place) :
    ∃ front directory name, LeadsTo files work j.path front directory name ∧
      j.place = directory ++ [name] := by
  rcases h.leads with ⟨front, directory, name, hleads, hplace⟩
  exact ⟨front, directory, name, hleads.of_isAbsolute h.isAbsolute work, hplace⟩

theorem Owns.ne_nil (h : Owns files j) : j.place ≠ [] := by
  rcases h.leads with ⟨front, directory, name, -, hplace⟩
  rw [hplace]
  exact List.append_ne_nil_of_right_ne_nil directory (List.cons_ne_nil name [])

theorem Owns.isDirectoryAt (h : Owns files j) : files.isDirectoryAt j.place = false := by
  rcases h.file with ⟨content, hfile⟩
  exact FileTree.isDirectoryAt_of_file hfile

/-- The path leads to the file from every working directory. -/
theorem Owns.locate (h : Owns files j) (work : Place) : files.locate work j.path = .ok j.place := by
  rcases h.leadsTo work with ⟨front, directory, name, hleads, hplace⟩
  rcases h.file with ⟨content, hfile⟩
  rw [hleads.locate, ← hplace, hfile]
  rfl

/-- The path shows what the file holds. -/
theorem Owns.read (h : Owns files j) (work : Place) {content : List UInt8}
    (hfile : files.node? j.place = some (.file content Controller.fileMode)) :
    files.read work j.path = .ok content := by
  rcases h.leadsTo work with ⟨front, directory, name, hleads, hplace⟩
  rw [hplace] at hfile
  exact hleads.read hfile

/-- Removing the path takes away the file, and nothing else. -/
theorem Owns.remove (h : Owns files j) (work : Place) :
    files.remove work j.path = .ok (files.erase j.place) := by
  rcases h.leadsTo work with ⟨front, directory, name, hleads, hplace⟩
  rcases h.file with ⟨content, hfile⟩
  rw [hplace] at hfile ⊢
  exact hleads.remove hfile

theorem Owns.run_removeHandoff {m : Machine} (h : Owns m.files j) :
    (Controller.removeHandoff j.path).run m = (.ok (), { m with files := m.files.erase j.place }) :=
  Controller.run_removeHandoff (h.remove m.workDirectory)

/-- Without the file nothing is at the path. -/
theorem Owns.pathExists_erase (h : Owns files j) (work : Place) :
    (files.erase j.place).pathExists work j.path = false := by
  rcases h.leadsTo work with ⟨front, directory, name, hleads, hplace⟩
  have hfile := h.isDirectoryAt
  rw [hplace] at hfile ⊢
  exact hleads.pathExists_erase hfile

/-- A handoff owns its file as long as that file and all directories are kept. -/
theorem Owns.of_change (h : Owns files j) (hdir : files.KeepsDirectories files')
    (hnode : files'.node? j.place = files.node? j.place) : Owns files' j where
  isAbsolute := h.isAbsolute
  leads := by
    rcases h.leads with ⟨front, directory, name, hleads, hplace⟩
    exact ⟨front, directory, name, hleads.of_directories hdir, hplace⟩
  file := by
    rw [hnode]
    exact h.file
  written := by
    rw [hnode]
    exact h.written

/-- A handoff that writes into its file owns it still. -/
theorem Owns.insert (h : Owns files j) (content : List UInt8) {phase : Phase}
    (hwritten : phase ≠ .created → ∃ text, j.relaunch.makefile j.path = .ok text ∧
      content = Utf8.encode text.toList) :
    Owns (files.insert j.place (.file content Controller.fileMode)) { j with phase } where
  isAbsolute := h.isAbsolute
  leads := by
    rcases h.leads with ⟨front, directory, name, hleads, hplace⟩
    exact ⟨front, directory, name,
      hleads.of_directories (FileTree.keepsDirectories_insert h.isDirectoryAt _), hplace⟩
  file := ⟨content, FileTree.node?_insert_self h.ne_nil _⟩
  written := by
    intro hphase
    rcases hwritten hphase with ⟨text, htext, rfl⟩
    exact ⟨text, htext, FileTree.node?_insert_self h.ne_nil _⟩

/-- A handoff owns the file that was created for it. -/
theorem owns_of_createFile {c : Controller} {r : Relaunch} {m : Machine} {path : Path}
    (h : (c.createFile.run m).1 = .ok (path, place)) :
    Owns (c.createFile.run m).2.files ⟨r, path, place, .created⟩ ∧ m.files.node? place = none ∧
      (c.createFile.run m).2.files = m.files.insert place (.file [] Controller.fileMode) := by
  rcases Action.exists_of_createTemporary h with ⟨n, hpath, hcreate⟩
  have habsolute : Path.isAbsolute path = true := by
    rw [hpath]
    exact Path.isAbsolute_join (Temporary.isAbsolute_directory _ _) _
  rcases FileTree.exists_of_create hcreate with
    ⟨front, directory, name, hleads, hplace, hfree, hfiles⟩
  refine ⟨⟨habsolute, ⟨front, directory, name, ?_, hplace⟩, ⟨[], ?_⟩, fun h => absurd rfl h⟩,
    hfree, hfiles⟩
  · have hinsert := hleads.insert hfree (.file [] Controller.fileMode)
    rw [← hfiles] at hinsert
    exact hinsert.of_isAbsolute habsolute []
  · exact (congrArg (FileTree.node? · place) hfiles).trans
      (FileTree.node?_insert_self (FileTree.ne_nil_of_node? hfree) _)

/-! ## Scenes -/

variable {jobs jobs' before after : List Job}

/-- The order of the handoffs does not matter. -/
theorem Scene.IsOwned.perm (h : Scene.IsOwned ⟨files, jobs⟩) (hperm : jobs.Perm jobs') :
    Scene.IsOwned ⟨files, jobs'⟩ :=
  ⟨fun j hj => h.owns j (hperm.mem_iff.mpr hj), (hperm.map Job.place).nodup_iff.mp h.apart⟩

theorem Scene.isOwned_cons_iff :
    Scene.IsOwned ⟨files, j :: jobs⟩ ↔
      Owns files j ∧ (∀ k ∈ jobs, k.place ≠ j.place) ∧ Scene.IsOwned ⟨files, jobs⟩ := by
  constructor
  · intro h
    have hapart := List.nodup_cons.mp h.apart
    refine ⟨h.owns j List.mem_cons_self, fun k hk heq => hapart.1 ?_,
      fun k hk => h.owns k (List.mem_cons_of_mem j hk), hapart.2⟩
    exact List.mem_map.mpr ⟨k, hk, heq⟩
  · rintro ⟨hown, hother, h⟩
    refine ⟨List.forall_mem_cons.mpr ⟨hown, h.owns⟩, List.nodup_cons.mpr ⟨fun hj => ?_, h.apart⟩⟩
    rcases List.mem_map.mp hj with ⟨k, hk, heq⟩
    exact hother k hk heq

/-- Among other handoffs, one of them has a file of its own. -/
theorem Scene.isOwned_middle_iff :
    Scene.IsOwned ⟨files, before ++ j :: after⟩ ↔
      Owns files j ∧ (∀ k ∈ before ++ after, k.place ≠ j.place) ∧
        Scene.IsOwned ⟨files, before ++ after⟩ := by
  rw [← Scene.isOwned_cons_iff]
  exact ⟨fun h => h.perm List.perm_middle, fun h => h.perm List.perm_middle.symm⟩

/-- A change at one place leaves all other files with their owners. -/
theorem Scene.IsOwned.of_change (h : Scene.IsOwned ⟨files, jobs⟩)
    (hdir : files.isDirectoryAt place = false)
    (hnode : ∀ p, p ≠ place → files'.node? p = files.node? p)
    (hother : ∀ k ∈ jobs, k.place ≠ place) : Scene.IsOwned ⟨files', jobs⟩ :=
  ⟨fun k hk => (h.owns k hk).of_change (FileTree.keepsDirectories_of_ne hdir hnode)
    (hnode k.place (hother k hk)), h.apart⟩

theorem Scene.IsOwned.insert (h : Scene.IsOwned ⟨files, jobs⟩)
    (hdir : files.isDirectoryAt place = false) (hother : ∀ k ∈ jobs, k.place ≠ place)
    (node : Node) : Scene.IsOwned ⟨files.insert place node, jobs⟩ :=
  h.of_change hdir (fun _ hne => FileTree.node?_insert_of_ne hne node) hother

theorem Scene.IsOwned.erase (h : Scene.IsOwned ⟨files, jobs⟩)
    (hdir : files.isDirectoryAt place = false) (hother : ∀ k ∈ jobs, k.place ≠ place) :
    Scene.IsOwned ⟨files.erase place, jobs⟩ :=
  h.of_change hdir (fun _ hne => FileTree.node?_erase_of_ne hne) hother

/-- A handoff that writes into its file leaves all files with their owners. -/
theorem Scene.IsOwned.write (h : Scene.IsOwned ⟨files, before ++ j :: after⟩)
    (content : List UInt8) {phase : Phase}
    (hwritten : phase ≠ .created → ∃ text, j.relaunch.makefile j.path = .ok text ∧
      content = Utf8.encode text.toList) :
    Scene.IsOwned ⟨files.insert j.place (.file content Controller.fileMode),
      before ++ { j with phase } :: after⟩ := by
  rcases Scene.isOwned_middle_iff.mp h with ⟨hown, hother, hrest⟩
  exact Scene.isOwned_middle_iff.mpr
    ⟨hown.insert content hwritten, hother, hrest.insert hown.isDirectoryAt hother _⟩

/-- Every step leaves the files with their owners. -/
theorem isOwned_of_step {here there : Scene} (hstep : Step here there) (h : here.IsOwned) :
    there.IsOwned := by
  cases hstep with
  | @create m jobs path place c r created =>
    rcases owns_of_createFile (r := r) created with ⟨hown, hfree, hfiles⟩
    -- There is a file at every owned place, so the free one is none of them.
    have hother : ∀ k ∈ jobs, k.place ≠ place := by
      intro k hk heq
      rcases (h.owns k hk).file with ⟨content, hfile⟩
      rw [heq, hfree] at hfile
      cases hfile
    refine Scene.isOwned_cons_iff.mpr ⟨hown, hother, ?_⟩
    rw [hfiles]
    exact h.insert (FileTree.isDirectoryAt_of_none hfree) hother _
  | @fill m before after j content phase =>
    exact h.write content fun hphase => absurd phase hphase
  | @write m before after j text phase makefile =>
    exact h.write _ fun _ => ⟨text, makefile, rfl⟩
  | @replace files before after j phase =>
    rcases Scene.isOwned_middle_iff.mp h with ⟨hown, hother, hrest⟩
    have hphase : j.phase ≠ .created := by
      rw [phase]
      decide
    exact Scene.isOwned_middle_iff.mpr
      ⟨⟨hown.isAbsolute, hown.leads, hown.file, fun _ => hown.written hphase⟩, hother, hrest⟩
  | @remove m before after j =>
    rcases Scene.isOwned_middle_iff.mp h with ⟨hown, hother, hrest⟩
    rw [hown.run_removeHandoff]
    exact hrest.erase hown.isDirectoryAt hother
  | abandon j => exact (Scene.isOwned_middle_iff.mp h).2.2

/-- In every scene that can be reached the files are with their owners. -/
theorem reachable_isOwned {here : Scene} (h : Reachable here) : here.IsOwned := by
  induction h with
  | start files => exact ⟨fun j hj => absurd hj List.not_mem_nil, List.nodup_nil⟩
  | step _ hstep ih => exact isOwned_of_step hstep ih

/-- Paths lead to one place only, so where places are apart, paths are. -/
theorem Scene.IsOwned.nodup_paths {here : Scene} (h : here.IsOwned) :
    (here.jobs.map Job.path).Nodup := by
  refine List.Nodup.map_on (fun j hj k hk hpath => ?_) h.apart.of_map
  have hplace := (h.owns j hj).locate []
  rw [hpath, (h.owns k hk).locate []] at hplace
  exact (List.inj_on_of_nodup_map h.apart hk hj (Except.ok.inj hplace)).symm

/-! ## The functions as steps -/

theorem Reachable.steps {here there : Scene} (h : Reachable here)
    (hsteps : Relation.ReflTransGen Step here there) : Reachable there := by
  induction hsteps with
  | refl => exact h
  | tail _ hstep ih => exact .step ih hstep

theorem run_createFile_error {c : Controller} {m made : Machine} {e : IoError × Path}
    (h : c.createFile.run m = (.error e, made)) : made = m := by
  rcases Action.run_createTemporary_cases c.directory Controller.fileFront Controller.fileBack
    Controller.fileMode m with ⟨e', p, hrun⟩ | ⟨p, place, files, n, hrun, -, -⟩
  · exact congrArg Prod.snd (h.symm.trans hrun)
  · cases h.symm.trans hrun

/-- A temporary file that goes away with the attempt is removed by its path. -/
theorem step_dropTemporary (m : Machine) (before after : List Job) (j : Job) :
    Step ⟨m.files, before ++ j :: after⟩
      ⟨((Action.dropTemporary j.path).run m).2.files, before ++ after⟩ := by
  have hfiles : ((Action.dropTemporary j.path).run m).2.files =
      ((Controller.removeHandoff j.path).run m).2.files := by
    unfold Action.dropTemporary Controller.removeHandoff
    rw [Action.run_bind, Action.run_bind]
    split <;> rfl
  rw [hfiles]
  exact .remove j

/-- The makefile is written in steps. If the system refuses a request, the file may
    hold any part of it. -/
theorem steps_fillFile (r : Relaunch) (path : Path) (place : Place) (m : Machine)
    (jobs : List Job) :
    (∃ e m', (Controller.fillFile r path place).run m = (.error e, m') ∧
      Relation.ReflTransGen Step ⟨m.files, ⟨r, path, place, .created⟩ :: jobs⟩
        ⟨m'.files, ⟨r, path, place, .created⟩ :: jobs⟩) ∨
    (∃ m', (Controller.fillFile r path place).run m = (.ok (), m') ∧
      Relation.ReflTransGen Step ⟨m.files, ⟨r, path, place, .created⟩ :: jobs⟩
        ⟨m'.files, ⟨r, path, place, .written⟩ :: jobs⟩) := by
  have hfill := fun content =>
    @Step.fill m [] jobs ⟨r, path, place, .created⟩ content rfl
  cases hmakefile : r.makefile path with
  | error word => exact .inl ⟨_, m, Controller.run_fillFile_notText hmakefile place m, .refl⟩
  | ok text =>
    rcases Controller.run_fillFile_cases hmakefile place m with
      ⟨refusal, part, k, -, hrun⟩ | ⟨refusal, -, -, hrun⟩ | ⟨-, hrun⟩
    · exact .inl ⟨_, _, hrun, .single (hfill part)⟩
    · exact .inl ⟨_, _, hrun, .single (hfill _)⟩
    · exact .inr ⟨_, hrun, .single
        (@Step.write m [] jobs ⟨r, path, place, .created⟩ text rfl hmakefile)⟩

/-- Writing a handoff file takes steps: the file is created, and then it gets its
    makefile or is removed. -/
theorem steps_writeHandoff (c : Controller) (r : Relaunch) (m : Machine) (jobs : List Job) :
    (∃ e m', (c.writeHandoff r).run m = (.error e, m') ∧
      Relation.ReflTransGen Step ⟨m.files, jobs⟩ ⟨m'.files, jobs⟩) ∨
    (∃ path place m', (c.writeHandoff r).run m = (.ok path, m') ∧
      Relation.ReflTransGen Step ⟨m.files, jobs⟩
        ⟨m'.files, ⟨r, path, place, .written⟩ :: jobs⟩) := by
  have hrun : (c.writeHandoff r).run m = _ := Action.run_bind c.createFile _ m
  rcases hcreate : c.createFile.run m with ⟨e | ⟨path, place⟩, made⟩
  · left
    rw [hcreate] at hrun
    refine ⟨_, made, hrun, ?_⟩
    rw [run_createFile_error hcreate]
  · have hstep := @Step.create m jobs path place c r (congrArg Prod.fst hcreate)
    have hcomplete : (Controller.completeFile r path place).run made = _ :=
      Action.run_bind (Controller.fillFile r path place) _ made
    rw [hcreate] at hrun hstep
    rcases steps_fillFile r path place made jobs with ⟨e, m₁, hfill, hsteps⟩ | ⟨m₁, hfill, hsteps⟩
    · left
      rw [hfill] at hcomplete
      exact ⟨e, _, hrun.trans hcomplete, .tail (.head hstep hsteps)
        (step_dropTemporary m₁ [] jobs ⟨r, path, place, .created⟩)⟩
    · right
      rw [hfill] at hcomplete
      exact ⟨path, place, m₁, hrun.trans hcomplete, .head hstep hsteps⟩

/-- Handing over takes steps, if the replacer leaves the files alone: the handoff
    is taken up by the second process, or it is over. -/
theorem steps_delegate (c : Controller) {replacer : Replacer}
    (hfiles : ∀ program arguments m, ((replacer program arguments).run m).2.files = m.files)
    (r : Relaunch) (m : Machine) (jobs : List Job) :
    (∃ e m', (c.delegate replacer r).run m = (.error e, m') ∧
      Relation.ReflTransGen Step ⟨m.files, jobs⟩ ⟨m'.files, jobs⟩) ∨
    (∃ path place m', (c.delegate replacer r).run m = (.ok .replaced, m') ∧
      Relation.ReflTransGen Step ⟨m.files, jobs⟩
        ⟨m'.files, ⟨r, path, place, .leased⟩ :: jobs⟩) := by
  rcases steps_writeHandoff c r m jobs with ⟨e, m₁, hwrite, hsteps⟩ |
    ⟨path, place, m₁, hwrite, hsteps⟩
  · exact .inl ⟨e, m₁, Controller.run_delegate_of_error hwrite, hsteps⟩
  · have hannounced := hfiles c.makeProgram (c.makeArguments path)
      (Controller.announced c path m₁)
    rcases hcall : (replacer c.makeProgram (c.makeArguments path)).run
      (Controller.announced c path m₁) with ⟨_ | source, m₂⟩
    · rw [hcall] at hannounced
      right
      refine ⟨path, place, m₂, Controller.run_delegate_of_replaced hwrite hcall, ?_⟩
      rw [hannounced]
      exact .tail hsteps (@Step.replace m₁.files [] jobs ⟨r, path, place, .written⟩ rfl)
    · rw [hcall] at hannounced
      left
      rcases Controller.run_delegate_of_refused hwrite hcall with ⟨m', hrun, -, hremoved⟩
      refine ⟨_, m', hrun, ?_⟩
      have hremove := @Step.remove m₂ [] jobs ⟨r, path, place, .written⟩
      rw [hannounced] at hremove
      rw [hremoved]
      exact .tail hsteps hremove

/-- The end of a lease is one step. -/
theorem step_releaseLease (m : Machine) (before after : List Job) (j : Job) :
    Step ⟨m.files, before ++ j :: after⟩
      ⟨((Controller.releaseLease j.path).run m).2.files, before ++ after⟩ := by
  rw [Controller.files_releaseLease_eq]
  exact .remove j

/-! ## Keeping apart -/

/-- What other handoffs read is not changed by the removal of a file that is not
    theirs. -/
theorem Owns.read_erase {k : Job} (h : Owns files k) (hdir : files.isDirectoryAt place = false)
    (hne : k.place ≠ place) (work : Place) :
    (files.erase place).read work k.path = files.read work k.path := by
  rcases h.file with ⟨content, hfile⟩
  have hnode := FileTree.node?_erase_of_ne (t := files) hne
  have h' := h.of_change (FileTree.keepsDirectories_erase hdir) hnode
  rw [h.read work hfile, h'.read work (hnode.trans hfile)]

/-- At every moment, whatever handoffs are in progress and however far each of
    them has come, no two of them have the same path. Whoever has written its
    makefile finds exactly that under its path. And whenever one of them removes
    its path, this takes away the file that was created for it and nothing else,
    so that all others still find what they would have found. -/
theorem handoffs_keep_apart {here : Scene} (h : Reachable here) :
    (here.jobs.map Job.path).Nodup ∧
    (∀ j ∈ here.jobs, j.phase ≠ .created → ∃ text, j.relaunch.makefile j.path = .ok text ∧
      ∀ work, here.files.read work j.path = .ok (Utf8.encode text.toList)) ∧
    (∀ before j after, here.jobs = before ++ j :: after → ∀ m : Machine, m.files = here.files →
      m.files.locate m.workDirectory j.path = .ok j.place ∧
      (Controller.removeHandoff j.path).run m =
        (.ok (), { m with files := here.files.erase j.place }) ∧
      (∀ work, (here.files.erase j.place).pathExists work j.path = false) ∧
      ∀ k ∈ before ++ after, k.place ≠ j.place ∧
        ∀ work, (here.files.erase j.place).read work k.path = here.files.read work k.path) := by
  have howned := reachable_isOwned h
  refine ⟨howned.nodup_paths, fun j hj hphase => ?_, fun before j after hjobs m hm => ?_⟩
  · rcases (howned.owns j hj).written hphase with ⟨text, htext, hfile⟩
    exact ⟨text, htext, fun work => (howned.owns j hj).read work hfile⟩
  · rcases here with ⟨files, jobs⟩
    cases hjobs
    cases hm
    rcases Scene.isOwned_middle_iff.mp howned with ⟨hown, hother, hrest⟩
    exact ⟨hown.locate _, hown.run_removeHandoff, hown.pathExists_erase,
      fun k hk => ⟨hother k hk, (hrest.owns k hk).read_erase hown.isDirectoryAt (hother k hk)⟩⟩

/-- The first of two handoffs is over, and a third one has taken its name. -/
theorem handoffs_keep_apart_reusedName :
    let machine (files : FileTree) : Machine := { (default : Machine) with files }
    let job (n : String) (command : OsText) : Job :=
      ⟨⟨"tcf", [], ["run", command]⟩, "/tmp/tcf-jobserver-" ++ n ++ ".mk",
        ["tmp", "tcf-jobserver-" ++ n ++ ".mk"], .created⟩
    let entry (n : String) : Place × Node :=
      (["tmp", "tcf-jobserver-" ++ n ++ ".mk"], .file [] Controller.fileMode)
    let files (names : List String) : FileTree :=
      ⟨names.foldr (fun n entries => entry n :: entries) [(["tmp"], .directory 0o777)]⟩
    let second := job "000001" "make"
    let third := job "000000" "ls"
    Reachable ⟨files ["000000", "000001"], [third, second]⟩ ∧
      third.path ≠ second.path ∧
      (Controller.removeHandoff third.path).run (machine (files ["000000", "000001"])) =
        (.ok (), machine (files ["000001"])) := by
  intro machine job entry files second third
  let c : Controller := ⟨"make", 4, "/tmp"⟩
  let first := job "000000" "true"
  have hfirst := (Reachable.start _).step (@Step.create (machine (files [])) [] first.path
    first.place c first.relaunch (by decide +kernel))
  rw [show (c.createFile.run (machine (files []))).2.files = files ["000000"]
    by decide +kernel] at hfirst
  have hsecond := hfirst.step (@Step.create (machine (files ["000000"])) [first] second.path
    second.place c second.relaunch (by decide +kernel))
  rw [show (c.createFile.run (machine (files ["000000"]))).2.files = files ["000001", "000000"]
    by decide +kernel] at hsecond
  -- The first handoff ends, and its name is free again.
  have hfreed := hsecond.step
    (@Step.remove (machine (files ["000001", "000000"])) [second] [] first)
  rw [show ((Controller.removeHandoff first.path).run
    (machine (files ["000001", "000000"]))).2.files = files ["000001"] by decide +kernel] at hfreed
  have hthird := hfreed.step (@Step.create (machine (files ["000001"])) [second] third.path
    third.place c third.relaunch (by decide +kernel))
  rw [show (c.createFile.run (machine (files ["000001"]))).2.files = files ["000000", "000001"]
    by decide +kernel] at hthird
  rcases handoffs_keep_apart hthird with ⟨hpaths, -, hremoves⟩
  refine ⟨hthird, fun h => (List.nodup_cons.mp hpaths).1 (List.mem_singleton.mpr h), ?_⟩
  rcases hremoves [] third [second] rfl (machine (files ["000000", "000001"])) rfl with
    ⟨-, hremove, -, -⟩
  rw [hremove]
  exact congrArg (fun files => (_, machine files)) (by decide +kernel)

end Concurrent

end BrokerClient
