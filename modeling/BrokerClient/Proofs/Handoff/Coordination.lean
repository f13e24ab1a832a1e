import BrokerClient.Config.Basic
import BrokerClient.Handoff.Controller
import BrokerClient.Proofs.Handoff.Words
import BrokerClient.Proofs.Host.Removal
import BrokerClient.Proofs.Host.Requests
import BrokerClient.Proofs.Host.TemporaryFile
import BrokerClient.Proofs.Program.Recording

/-!
# What a Failed Handoff Leaves Behind

A handoff can fail at several points. No file can be created, the command line
has a word that is no text, the system refuses to write the file or to keep it,
or the process cannot go on as make. At the first point there is no file yet. At
all others there is one, with all of its content, with a part of it, or empty,
and it is removed by its path. The path leads to the same place as before,
because a file at a free place is in no way, and because it is absolute and does
not depend on where the process works by then.

So the files are in the end what they were. Only at the last point was make
asked for, and by then the file was written and kept.

## Main definitions

* `Controller.IsFresh`: A path for a handoff file with nothing at it.
* `Controller.IsRequest`: What a request to go on as make looks like.
* `Controller.Fails`: How a handoff fails, and what was requested by then.

## Theorems

* `Controller.run_fillFile_cases`: What becomes of the requests for the new file.
* `Controller.run_writeHandoff_cases`: What writing a handoff file leaves behind.
* `Controller.run_delegate_recorded`: The one request of a handoff, and what follows it.
* `Controller.files_releaseLease`: A lease takes away at most its file.
* `Controller.coordinate_leaves_files`: Whatever fails, no file is left behind.
-/

namespace BrokerClient

namespace Controller

open FileTree (LeadsTo)
open Machine (OnlyRemoves)

/-- The directory for handoff files, spelled from the root. -/
def absoluteDirectory (c : Controller) (m : Machine) : Path :=
  Temporary.directory m.workDirectory c.directory

/-- A path for a handoff file: a temporary name in the directory for handoff
    files, with nothing at it. -/
structure IsFresh (c : Controller) (m : Machine) (path : Path) : Prop where
  named : ∃ n, path = Path.join (c.absoluteDirectory m) (Temporary.name fileFront fileBack n)
  absent : m.files.pathExists m.workDirectory path = false

/-- A request to go on as make: there was nothing at the path, and now there
    is a handoff file in its directory with all of the makefile in it. -/
structure IsRequest (c : Controller) (r : Relaunch) (m : Machine) (path : Path)
    (call : Replacement) : Prop where
  fresh : c.IsFresh m path
  program : call.program = c.makeProgram
  arguments : call.arguments =
    (["-s", "-f", path, ("-j" ++ toString c.makeJobs : String), "tcf-jobserver-run"] : List OsText)
  jobs : 1 ≤ c.makeJobs
  readable : ∀ word ∈ r.program :: r.configArguments ++ Relaunch.marker path :: r.commandArguments,
    Relaunch.isUnreadable word = false
  located : ∃ directory name,
    m.files.locate m.workDirectory (c.absoluteDirectory m) = .ok directory ∧
      call.files.locate m.workDirectory path = .ok (directory ++ [name])
  written : ∃ text, r.makefile path = .ok text ∧
    call.files.read m.workDirectory path = .ok (Utf8.encode text.toList)

/-- How a handoff fails, and what was requested by then. The file takes three
    requests to write, since it is also passed on and brought to the disk, and
    one more to keep. -/
inductive Fails (c : Controller) (r : Relaunch) (m : Machine) :
    HandoffError → List Replacement → Prop
  | create {path : Path} {source : IoError}
    (failed : ((Action.createTemporary c.directory fileFront fileBack fileMode).run m).1 =
      .error (source, path)) : Fails c r m (.create c.directory path source) []
  | notText {path : Path} {word : OsText} (fresh : c.IsFresh m path)
    (first : (r.program :: r.configArguments ++ Relaunch.marker path :: r.commandArguments).find?
      Relaunch.isUnreadable = some word) : Fails c r m (.argumentNotText word) []
  | write {path : Path} {text : String} {refusal : Refusal} (fresh : c.IsFresh m path)
    (makefile : r.makefile path = .ok text) (refused : m.refusal? 3 = some refusal) :
    Fails c r m (.write path refusal.error) []
  | keep {path : Path} {text : String} {refusal : Refusal} (fresh : c.IsFresh m path)
    (makefile : r.makefile path = .ok text) (written : m.refusal? 3 = none)
    (refused : m.refusal? 4 = some refusal) : Fails c r m (.keep path refusal.error) []
  | replace {path : Path} {call : Replacement} (source : IoError) (kept : m.refusal? 4 = none)
    (request : c.IsRequest r m path call) : Fails c r m (.replace c.makeProgram source) [call]

/-! ## The file -/

/-- A handoff file that was just created. -/
structure Created (c : Controller) (m : Machine) (path : Path) (directory : Place) (name : OsText) :
    Prop where
  named : ∃ n, path = Path.join (c.absoluteDirectory m) (Temporary.name fileFront fileBack n)
  leads : ∃ front, LeadsTo m.files m.workDirectory path front directory name
  free : m.files.node? (directory ++ [name]) = none

/-- The machine with a handoff file on it. -/
def withFile (m : Machine) (place : Place) (content : List UInt8) : Machine :=
  { m with files := m.files.insert place (.file content fileMode), nextName := m.nextName + 1 }

variable {c : Controller} {r : Relaunch} {m : Machine} {path : Path} {directory : Place}
  {name : OsText}

theorem isName_fileName (n : Nat) :
    Path.IsName (Temporary.name fileFront fileBack n).bytes :=
  Temporary.isName_name n rfl (by decide) (by decide) (by decide)

theorem Created.isFresh (h : Created c m path directory name) : c.IsFresh m path := by
  rcases h.leads with ⟨front, hleads⟩
  exact ⟨h.named, hleads.pathExists h.free⟩

theorem Created.ne_nil (h : Created c m path directory name) : directory ++ [name] ≠ [] :=
  FileTree.ne_nil_of_node? h.free

theorem Created.isAbsolute (h : Created c m path directory name) :
    Path.isAbsolute path = true := by
  rcases h.named with ⟨n, rfl⟩
  exact Path.isAbsolute_join (Temporary.isAbsolute_directory _ _) _

/-- The file stands in the directory for handoff files. -/
theorem Created.located (h : Created c m path directory name) (content : List UInt8) :
    m.files.locate m.workDirectory (c.absoluteDirectory m) = .ok directory ∧
      (withFile m (directory ++ [name]) content).files.locate m.workDirectory path =
        .ok (directory ++ [name]) := by
  rcases h.leads with ⟨front, hleads⟩
  constructor
  · rcases h.named with ⟨n, rfl⟩
    -- A temporary name has no slash, so the file is in the directory itself.
    exact (hleads.of_join (Temporary.isAbsolute_directory _ _) (isName_fileName n)).2
  · have hleads' := hleads.insert h.free (.file content fileMode)
    unfold withFile
    rw [hleads'.locate, FileTree.node?_insert_self h.ne_nil, Option.isSome_some, if_pos rfl]

/-- The file can be read by its path from any working directory. -/
theorem Created.read (h : Created c m path directory name) (content : List UInt8) (work : Place) :
    (withFile m (directory ++ [name]) content).files.read work path = .ok content := by
  rcases h.leads with ⟨front, hleads⟩
  have hleads' := (hleads.insert h.free (.file content fileMode)).of_isAbsolute h.isAbsolute work
  exact hleads'.read (FileTree.node?_insert_self h.ne_nil _)

theorem Created.ne_empty (h : Created c m path directory name) : path ≠ .empty := by
  rintro rfl
  cases h.isAbsolute

/-- The file can be removed by its path from any working directory, and then
    the files are what they were. -/
theorem Created.remove (h : Created c m path directory name) (content : List UInt8) (work : Place) :
    (withFile m (directory ++ [name]) content).files.remove work path = .ok m.files := by
  rcases h.leads with ⟨front, hleads⟩
  exact hleads.remove_insert h.isAbsolute h.free content fileMode work

/-! ## Writing the file -/

/-- The new file is empty at first, and what is in it later replaces that. -/
theorem Created.filled (h : Created c m path directory name) (content : List UInt8) (k : Nat) :
    Action.filled (withFile m (directory ++ [name]) []) (directory ++ [name]) content fileMode k =
      (withFile m (directory ++ [name]) content).answered k := by
  unfold Action.filled withFile Machine.answered
  simp only
  rw [FileTree.insert_insert h.ne_nil h.free]

/-- Whatever is in the file, and whichever answers were taken, it can be taken
    away, and then the files are what they were. -/
theorem Created.run_dropTemporary (h : Created c m path directory name) (content : List UInt8)
    (k : Nat) :
    (Action.dropTemporary path).run ((withFile m (directory ++ [name]) content).answered k) =
      (⟨⟩, { m with nextName := m.nextName + 1, answers := m.answers.drop k }) := by
  have hremove : ((withFile m (directory ++ [name]) content).answered k).files.remove
      m.workDirectory path = .ok m.files := h.remove content m.workDirectory
  rw [Action.run_dropTemporary hremove]
  rfl

/-- The makefile is in its file and the file is kept, or the first request that is
    refused tells why not. -/
theorem run_fillFile_cases {text : String} (hmakefile : r.makefile path = .ok text)
    (place : Place) (m : Machine) :
    (∃ refusal part k, m.refusal? 3 = some refusal ∧
      (fillFile r path place).run m =
        (.error (.write path refusal.error), Action.filled m place part fileMode k)) ∨
    (∃ refusal, m.refusal? 3 = none ∧ m.refusal? 4 = some refusal ∧
      (fillFile r path place).run m = (.error (.keep path refusal.error),
        Action.filled m place (Utf8.encode text.toList) fileMode 4)) ∨
    (m.refusal? 4 = none ∧ (fillFile r path place).run m =
      (.ok (), Action.filled m place (Utf8.encode text.toList) fileMode 4)) := by
  unfold fillFile
  rw [hmakefile]
  simp only
  rw [Action.run_bind]
  rcases Action.run_save_cases place (Utf8.encode text.toList) fileMode 2 m with
    ⟨refusal, part, k, hrefused, hsave⟩ | ⟨hwritten, hsave⟩
  · left
    rw [hsave]
    exact ⟨refusal, part, k, hrefused, rfl⟩
  · right
    have hfour : m.refusal? 4 =
        (Action.filled m place (Utf8.encode text.toList) fileMode 3).refusal? 1 := by
      rw [Machine.refusal?_add m 3 1, hwritten, Option.none_or, Action.refusal?_filled]
    rw [hsave]
    simp only
    rw [Action.run_bind]
    -- The file is complete, and it depends on the fourth request whether it is kept.
    cases hkeep : m.refusal? 4 with
    | some refusal =>
      left
      rw [Action.run_request_error (hfour.symm.trans hkeep), Action.answered_filled]
      exact ⟨refusal, hwritten, rfl, rfl⟩
    | none =>
      right
      rw [Action.run_request_ok (hfour.symm.trans hkeep), Action.answered_filled]
      exact ⟨rfl, rfl⟩

theorem run_fillFile_notText {word : OsText} (hmakefile : r.makefile path = .error word)
    (place : Place) (m : Machine) :
    (fillFile r path place).run m = (.error (.argumentNotText word), m) := by
  unfold fillFile
  rw [hmakefile]
  rfl

/-- A new file that cannot be completed is not there any more. -/
theorem Created.run_completeFile_error (h : Created c m path directory name)
    {content : List UInt8} {k : Nat} {e : HandoffError}
    (hfill : (fillFile r path (directory ++ [name])).run (withFile m (directory ++ [name]) []) =
      (.error e, (withFile m (directory ++ [name]) content).answered k)) :
    (completeFile r path (directory ++ [name])).run (withFile m (directory ++ [name]) []) =
      (.error e, { m with nextName := m.nextName + 1, answers := m.answers.drop k }) := by
  unfold completeFile
  rw [Action.run_bind, hfill]
  simp only
  rw [Action.run_bind, h.run_dropTemporary]
  rfl

/-- A new file is completed and kept, or it is not there any more. -/
theorem Created.run_completeFile_cases (h : Created c m path directory name) (r : Relaunch) :
    (∃ e k, (completeFile r path (directory ++ [name])).run (withFile m (directory ++ [name]) []) =
        (.error e, { m with nextName := m.nextName + 1, answers := m.answers.drop k }) ∧
      Fails c r m e []) ∨
    (∃ text, r.makefile path = .ok text ∧ m.refusal? 4 = none ∧
      (completeFile r path (directory ++ [name])).run (withFile m (directory ++ [name]) []) =
        (.ok path, (withFile m (directory ++ [name]) (Utf8.encode text.toList)).answered 4)) := by
  cases hmakefile : r.makefile path with
  | error word =>
    left
    -- Nothing is written, so the file is still empty when it is taken away.
    exact ⟨_, 0, h.run_completeFile_error (run_fillFile_notText hmakefile _ _),
      .notText h.isFresh (Relaunch.makefile_eq_error_iff.mp hmakefile)⟩
  | ok text =>
    rcases run_fillFile_cases hmakefile (directory ++ [name])
      (withFile m (directory ++ [name]) []) with
      ⟨refusal, part, k, hrefused, hfill⟩ | ⟨refusal, hwritten, hrefused, hfill⟩ | ⟨hkept, hfill⟩
    · left
      rw [h.filled] at hfill
      exact ⟨_, k, h.run_completeFile_error hfill, .write h.isFresh hmakefile hrefused⟩
    · left
      rw [h.filled] at hfill
      exact ⟨_, 4, h.run_completeFile_error hfill, .keep h.isFresh hmakefile hwritten hrefused⟩
    · right
      rw [h.filled] at hfill
      refine ⟨text, rfl, hkept, ?_⟩
      unfold completeFile
      rw [Action.run_bind, hfill]
      rfl

/-- A handoff file is written and kept, or there is an error and all files are as
    they were. -/
theorem run_writeHandoff_cases (c : Controller) (r : Relaunch) (m : Machine) :
    (∃ e nextName answers, (c.writeHandoff r).run m = (.error e, { m with nextName, answers }) ∧
      Fails c r m e []) ∨
    (∃ path directory name text, Created c m path directory name ∧
      r.makefile path = .ok text ∧ m.refusal? 4 = none ∧
      (c.writeHandoff r).run m =
        (.ok path, (withFile m (directory ++ [name]) (Utf8.encode text.toList)).answered 4)) := by
  unfold writeHandoff
  rw [Action.run_bind]
  rcases Action.run_createTemporary_cases c.directory fileFront fileBack fileMode m with
    ⟨e, p, hcreate⟩ | ⟨p, place, made, n, hrun, hp, hcreate⟩
  · left
    have hfailed : ((Action.createTemporary c.directory fileFront fileBack fileMode).run m).1 =
        .error (e, p) := congrArg Prod.fst hcreate
    rw [hcreate]
    exact ⟨_, m.nextName, m.answers, rfl, .create hfailed⟩
  · rcases FileTree.exists_of_create hcreate with ⟨front, directory, name, hleads, rfl, hfree, rfl⟩
    have hcreated : Created c m p directory name := ⟨⟨n, hp⟩, ⟨front, hleads⟩, hfree⟩
    rw [hrun]
    rcases hcreated.run_completeFile_cases r with ⟨e, k, hcomplete, hfails⟩ |
      ⟨text, hmakefile, hkept, hcomplete⟩
    · exact .inl ⟨e, _, _, hcomplete, hfails⟩
    · exact .inr ⟨p, directory, name, text, hcreated, hmakefile, hkept, hcomplete⟩

/-! ## The request -/

/-- The machine when the handoff has been announced. -/
def announced (c : Controller) (path : Path) (m : Machine) : Machine :=
  { m with events := m.events ++ [⟨.info, logTarget, "re-executing under make jobserver",
      [("program", c.makeProgram), ("jobs", toString c.makeJobs), ("file", path.shown)],
      none⟩] }

theorem run_removeHandoff {m : Machine} {path : Path} {files : FileTree}
    (h : m.files.remove m.workDirectory path = .ok files) :
    (removeHandoff path).run m = (.ok (), { m with files }) := by
  have hremove : (Action.removeFile path).run m = (.ok (), { m with files }) :=
    Action.run_changeFiles_ok h
  unfold removeHandoff
  rw [Action.run_bind, hremove]
  rfl

/-- Removing a handoff file only removes. -/
theorem onlyRemoves_removeHandoff (path : Path) :
    Action.Preserves OnlyRemoves (removeHandoff path) := by
  unfold removeHandoff
  refine .bind OnlyRemoves.frame (Action.onlyRemoves_removeFile path) fun r => ?_
  cases r <;> exact .pure OnlyRemoves.frame _

/-- Once the file is written there is one request. If it succeeds, the process
    is gone. -/
theorem run_delegate_of_replaced {replacer : Replacer} {m₁ m₂ : Machine}
    (hwrite : (c.writeHandoff r).run m = (.ok path, m₁))
    (hcall : (replacer c.makeProgram (c.makeArguments path)).run (announced c path m₁) =
      (none, m₂)) :
    (c.delegate replacer r).run m = (.ok .replaced, m₂) := by
  unfold announced at hcall
  unfold delegate
  rw [Action.run_bind, hwrite]
  simp only
  rw [Action.run_bind, Action.run_log, Action.run_bind, hcall]
  rfl

/-- If the request fails, so does the handoff, and all that follows is that the
    file is removed. -/
theorem run_delegate_of_refused {replacer : Replacer} {m₁ m₂ : Machine} {source : IoError}
    (hwrite : (c.writeHandoff r).run m = (.ok path, m₁))
    (hcall : (replacer c.makeProgram (c.makeArguments path)).run (announced c path m₁) =
      (some source, m₂)) :
    ∃ m', (c.delegate replacer r).run m = (.error (.replace c.makeProgram source), m') ∧
      OnlyRemoves m₂ m' ∧ m'.files = ((removeHandoff path).run m₂).2.files := by
  unfold announced at hcall
  unfold delegate
  rw [Action.run_bind, hwrite]
  simp only
  rw [Action.run_bind, Action.run_log, Action.run_bind, hcall]
  simp only
  have hremove := onlyRemoves_removeHandoff path m₂
  rw [Action.run_bind]
  -- If the file stays, that is only logged.
  cases ((removeHandoff path).run m₂).1 with
  | ok u => exact ⟨_, rfl, hremove, rfl⟩
  | error e => exact ⟨_, rfl, OnlyRemoves.frame.trans hremove (.of_eq rfl rfl rfl rfl), rfl⟩

theorem run_delegate_of_error {replacer : Replacer} {m₁ : Machine} {e : HandoffError}
    (hwrite : (c.writeHandoff r).run m = (.error e, m₁)) :
    (c.delegate replacer r).run m = (.error e, m₁) := by
  unfold delegate
  rw [Action.run_bind, hwrite]
  rfl

/-! ## The end -/

/-- What a recorded request leaves behind, if the replacer fails and changes no
    files. -/
theorem exists_of_run_recorded {replacer : Replacer} {program : OsText} {arguments : List OsText}
    (hfails : ∀ m, ((replacer program arguments).run m).1.isSome = true ∧
      ((replacer program arguments).run m).2.files = m.files) (m : Machine) :
    ∃ source m₂, (replacer.recorded program arguments).run m = (some source, m₂) ∧
      m₂.files = m.files ∧
      m₂.replacements = m.replacements ++ [⟨program, arguments, m.files⟩] := by
  rcases hfails m with ⟨hsome, hfiles⟩
  rcases Option.isSome_iff_exists.mp hsome with ⟨source, hsource⟩
  have hrun := Replacer.run_recorded replacer program arguments m
  rw [hsource] at hrun
  exact ⟨source, _, hrun, hfiles, rfl⟩

theorem run_removeHandoff_of_error {m : Machine} {path : Path} {e : IoError}
    (h : m.files.remove m.workDirectory path = .error e) :
    ((removeHandoff path).run m).2 = m := by
  have hremove : (Action.removeFile path).run m = (.error e, m) := Action.run_changeFiles_error h
  unfold removeHandoff
  rw [Action.run_bind, hremove]
  rfl

theorem onlyRemoves_releaseLease (path : Path) :
    Action.Preserves OnlyRemoves (releaseLease path) := by
  unfold releaseLease
  refine .bind OnlyRemoves.frame (onlyRemoves_removeHandoff path) fun r => ?_
  cases r <;> exact Action.onlyRemoves_log _ _ _ _

theorem files_releaseLease_eq (path : Path) (m : Machine) :
    ((releaseLease path).run m).2.files = ((removeHandoff path).run m).2.files := by
  unfold releaseLease
  rw [Action.run_bind]
  split <;> rfl

/-- A lease takes away at most the file that its path leads to. -/
theorem files_releaseLease (path : Path) (m : Machine) :
    ((releaseLease path).run m).2.files = m.files ∨
      ∃ place content mode, m.files.locate m.workDirectory path = .ok place ∧
        m.files.node? place = some (.file content mode) ∧
        ((releaseLease path).run m).2.files = m.files.erase place := by
  rw [files_releaseLease_eq]
  cases hremove : m.files.remove m.workDirectory path with
  | error e =>
    left
    rw [run_removeHandoff_of_error hremove]
  | ok files =>
    right
    rcases FileTree.exists_of_remove hremove with ⟨place, content, mode, hlocate, hnode, rfl⟩
    rw [run_removeHandoff hremove]
    exact ⟨place, content, mode, hlocate, hnode, rfl⟩

/-- Looking for a job limit changes nothing. -/
theorem run_inheritsJobLimit (m : Machine) : (inheritsJobLimit.run m).2 = m := by
  unfold inheritsJobLimit
  rw [Action.run_bind]
  split <;> rfl

theorem run_coordinate_disabled (c : Controller) (replacer : Replacer) (r : Relaunch)
    (m : Machine) :
    ∃ events, (c.coordinate replacer .disabled r).run m = (.ok .direct, { m with events }) := by
  unfold coordinate
  simp only
  rw [Action.run_bind, run_inheritsJobLimit]
  exact ⟨_, rfl⟩

theorem run_coordinate_handoff (c : Controller) (replacer : Replacer) (path : Path) (r : Relaunch)
    (m : Machine) :
    ∃ events, (c.coordinate replacer (.handoff path) r).run m =
      (.ok (.leased path), { m with events }) := by
  unfold coordinate
  simp only
  rw [Action.run_bind, run_inheritsJobLimit]
  exact ⟨_, rfl⟩

/-- The handoff of a process that cannot go on as make. -/
theorem run_delegate_recorded (config : Config) (directory : Path) {replacer : Replacer}
    (hfails : ∀ program arguments m, ((replacer program arguments).run m).1.isSome = true ∧
      ((replacer program arguments).run m).2.files = m.files) (r : Relaunch) (m : Machine) :
    ∃ e calls m', ((⟨config.makeProgram, config.jobs, directory⟩ : Controller).delegate
        replacer.recorded r).run m = (.error e, m') ∧
      m'.files = m.files ∧ m'.replacements = m.replacements ++ calls ∧
      Fails ⟨config.makeProgram, config.jobs, directory⟩ r m e calls := by
  rcases run_writeHandoff_cases ⟨config.makeProgram, config.jobs, directory⟩ r m with
    ⟨e, nextName, answers, hwrite, hcase⟩ |
    ⟨path, place, name, text, hcreated, hmakefile, hkept, hwrite⟩
  · exact ⟨e, [], _, run_delegate_of_error hwrite, rfl, (List.append_nil _).symm, hcase⟩
  · rcases exists_of_run_recorded (hfails _ _) (announced _ path
      ((withFile m (place ++ [name]) (Utf8.encode text.toList)).answered 4)) with
      ⟨source, m₂, hcall, hfiles, hreplacements⟩
    -- The replacer has left the file where it was, so its path still leads to it.
    have hremove : m₂.files.remove m₂.workDirectory path = .ok m.files := by
      rw [hfiles]
      exact hcreated.remove _ _
    rcases run_delegate_of_refused hwrite hcall with ⟨m', hrun, hremoves, hfiles'⟩
    rw [run_removeHandoff hremove] at hfiles'
    have hrequest : IsRequest ⟨config.makeProgram, config.jobs, directory⟩ r m path
        ⟨config.makeProgram, makeArguments ⟨config.makeProgram, config.jobs, directory⟩ path,
          (withFile m (place ++ [name]) (Utf8.encode text.toList)).files⟩ :=
      ⟨hcreated.isFresh, rfl, rfl, config.one_le_jobs, Relaunch.isUnreadable_of_makefile hmakefile,
        ⟨place, name, hcreated.located _⟩, ⟨text, hmakefile, hcreated.read _ _⟩⟩
    exact ⟨_, _, m', hrun, hfiles', hremoves.replacements.trans hreplacements,
      .replace source hkept hrequest⟩

/-- A process that is to hand over and cannot go on as make fails and leaves
    the files as they were. A process without a handoff, or with a lease, makes
    no request and no change, and a lease takes away at most its file. -/
theorem coordinate_leaves_files (config : Config) (directory : Path) (replacer : Replacer)
    (hfails : ∀ program arguments m, ((replacer program arguments).run m).1.isSome = true ∧
      ((replacer program arguments).run m).2.files = m.files) (r : Relaunch) (m : Machine) :
    let c : Controller := ⟨config.makeProgram, config.jobs, directory⟩
    let coordinated (token : HandoffToken) := (c.coordinate replacer.recorded token r).run m
    (∃ e calls, (coordinated .unset).1 = .error e ∧ (coordinated .unset).2.files = m.files ∧
        (coordinated .unset).2.replacements = m.replacements ++ calls ∧ Fails c r m e calls) ∧
      ((coordinated .disabled).1 = .ok .direct ∧ (coordinated .disabled).2.files = m.files ∧
        (coordinated .disabled).2.replacements = m.replacements) ∧
      (∀ path, (coordinated (.handoff path)).1 = .ok (.leased path) ∧
        (coordinated (.handoff path)).2.files = m.files ∧
        (coordinated (.handoff path)).2.replacements = m.replacements) ∧
      (∀ path later, ((releaseLease path).run later).2.files = later.files ∨
        ∃ place content mode, later.files.locate later.workDirectory path = .ok place ∧
          later.files.node? place = some (.file content mode) ∧
          ((releaseLease path).run later).2.files = later.files.erase place) := by
  intro c coordinated
  refine ⟨?_, ?_, fun path => ?_, files_releaseLease⟩
  · rcases run_delegate_recorded config directory hfails r m with
      ⟨e, calls, m', hrun, hfiles, hreplacements, hcase⟩
    have hunset : coordinated .unset = (.error e, m') := hrun
    rw [hunset]
    exact ⟨e, calls, rfl, hfiles, hreplacements, hcase⟩
  · rcases run_coordinate_disabled c replacer.recorded r m with ⟨events, hrun⟩
    have hdisabled : coordinated .disabled = (.ok .direct, { m with events }) := hrun
    rw [hdisabled]
    exact ⟨rfl, rfl, rfl⟩
  · rcases run_coordinate_handoff c replacer.recorded path r m with ⟨events, hrun⟩
    have hleased : coordinated (.handoff path) = (.ok (.leased path), { m with events }) := hrun
    rw [hleased]
    exact ⟨rfl, rfl, rfl⟩

/-- Without make, a machine with an empty directory for temporary files is left
    with an empty one. So it is if the disk is full after some bytes of the file,
    and then make is not even asked for. -/
theorem coordinate_leaves_files_noMake :
    let config : Config := ⟨"/state", "/share", [], "info", .compact, 4, "make"⟩
    let replacer : Replacer := fun _ _ => return some (.system .noEntry)
    let m : Machine := { (default : Machine) with files := ⟨[(["tmp"], .directory 0o777)]⟩ }
    let full : Machine := { m with answers := [some ⟨8, .system ⟨28⟩⟩] }
    let c : Controller := ⟨config.makeProgram, config.jobs, "/tmp"⟩
    let coordinated (m : Machine) :=
      (c.coordinate replacer.recorded .unset ⟨"tcf", [], ["run", "true"]⟩).run m
    (coordinated m).2.replacements.map (fun call => call.arguments.map OsText.shown) =
        [["-s", "-f", "/tmp/tcf-jobserver-000000.mk", "-j4", "tcf-jobserver-run"]] ∧
      (coordinated m).2.files = ⟨[(["tmp"], .directory 0o777)]⟩ ∧
      (coordinated full).2.replacements = [] ∧
      (coordinated full).2.files = ⟨[(["tmp"], .directory 0o777)]⟩ := by
  intro config replacer m full c coordinated
  have hleaves := coordinate_leaves_files config "/tmp" replacer (fun _ _ _ => ⟨rfl, rfl⟩)
    ⟨"tcf", [], ["run", "true"]⟩
  rcases (hleaves m).1 with ⟨e, calls, -, hfiles, -⟩
  rcases (hleaves full).1 with ⟨e', calls', -, hfull, -⟩
  exact ⟨by decide +kernel, hfiles, by decide +kernel, hfull⟩

end Controller

end BrokerClient
