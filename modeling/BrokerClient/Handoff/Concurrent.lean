import BrokerClient.Handoff.Controller

/-!
# Concurrent Handoffs

Several clients hand over at the same time and keep their handoff files in the
same directory. A handoff goes through three phases: its file has been created
under a name that was free, its file holds the makefile, and the second process
holds the lease on it. It ends when one of its processes removes the file,
because no makefile was written, because the process could not go on as make,
or because the command is done. It may also be given up, if its processes are
gone before that.

At every moment one of the handoffs takes its next step, whichever it is, and new
ones may begin. A step is one of the operations that the functions of
`Controller` are made of. It is carried out on the machine as the process sees
it: the files are shared, and all the rest of the machine, such as the working
directory, belongs to the process and is left open. So any interleaving of those
functions is a path of steps. Names become free again when files are removed,
and may be taken once more.

## Main definitions

* `Concurrent.Job`: A handoff in progress.
* `Concurrent.Scene`: The files, and the handoffs in progress.
* `Concurrent.Step`: One step of one of the handoffs.
* `Concurrent.Reachable`: What steps lead to from a scene without handoffs.
-/

namespace BrokerClient

/-- Creates the file for a handoff: the first part of `Controller.writeHandoff`. -/
def Controller.createFile (c : Controller) : Action (Except (IoError × Path) (Path × Place)) :=
  Action.createTemporary c.directory fileFront fileBack fileMode

namespace Concurrent

/-- How far a handoff has come. -/
inductive Phase where
  /-- The file is there, and the makefile is not complete. -/
  | created
  /-- The file holds the makefile. -/
  | written
  /-- The second process holds the lease on the file. -/
  | leased
  deriving DecidableEq, Repr

/-- A handoff in progress: what is handed over, the path of the file that its
    processes know, and the place where the file was created. -/
structure Job where
  relaunch : Relaunch
  path : Path
  place : Place
  phase : Phase
  deriving DecidableEq, Repr

/-- The files that all handoffs share, and the handoffs in progress. -/
structure Scene where
  files : FileTree
  jobs : List Job
  deriving DecidableEq

/-- One step of one of the handoffs. -/
inductive Step : Scene → Scene → Prop where
  /-- A handoff begins with a new file. -/
  | create {m : Machine} {jobs : List Job} {path : Path} {place : Place} (c : Controller)
      (r : Relaunch)
      (created : (c.createFile.run m).1 = .ok (path, place)) :
      Step ⟨m.files, jobs⟩ ⟨(c.createFile.run m).2.files, ⟨r, path, place, .created⟩ :: jobs⟩
  /-- A part of the makefile is written, or something else that is not yet all
      of it. -/
  | fill {m : Machine} {before after : List Job} {j : Job} (content : List UInt8)
      (phase : j.phase = .created) :
      Step ⟨m.files, before ++ j :: after⟩
        ⟨((Action.writeOpened j.place content Controller.fileMode).run m).2.files,
          before ++ j :: after⟩
  /-- The makefile is complete. -/
  | write {m : Machine} {before after : List Job} {j : Job} {text : String}
      (phase : j.phase = .created) (makefile : j.relaunch.makefile j.path = .ok text) :
      Step ⟨m.files, before ++ j :: after⟩
        ⟨((Action.writeOpened j.place (Utf8.encode text.toList) Controller.fileMode).run m).2.files,
          before ++ { j with phase := .written } :: after⟩
  /-- The process goes on as make, which starts the second process. -/
  | replace {files : FileTree} {before after : List Job} {j : Job} (phase : j.phase = .written) :
      Step ⟨files, before ++ j :: after⟩ ⟨files, before ++ { j with phase := .leased } :: after⟩
  /-- A handoff ends, in whatever phase it is: the process that knows the file
      removes it. -/
  | remove {m : Machine} {before after : List Job} (j : Job) :
      Step ⟨m.files, before ++ j :: after⟩
        ⟨((Controller.removeHandoff j.path).run m).2.files, before ++ after⟩
  /-- A handoff is given up, in whatever phase it is: no process is left that
      would remove the file, and it stays. -/
  | abandon {files : FileTree} {before after : List Job} (j : Job) :
      Step ⟨files, before ++ j :: after⟩ ⟨files, before ++ after⟩

/-- What steps lead to from a scene without handoffs. -/
inductive Reachable : Scene → Prop where
  | start (files : FileTree) : Reachable ⟨files, []⟩
  | step {here there : Scene} : Reachable here → Step here there → Reachable there

end Concurrent

end BrokerClient
