import BrokerClient.Proofs.Files.Lookup
import BrokerClient.Proofs.Host.Action

/-!
# Actions That Only Remove

Most of what a client does to a machine adds no files and asks for nothing: it
logs, reads, sets variables and removes files. This is one relation between
machines, and it can be chained. What is weaker than it, such as adding nothing
at certain places, is kept by the same actions.

## Main definitions

* `Machine.OnlyRemoves`: No file is added or changed, and nothing is asked for.
* `Machine.AddsNothing`: No file is added or changed at certain places.

## Theorems

* `Machine.OnlyRemoves.frame`: The relation can be chained.
* `Action.onlyRemoves_removeFile`: Removing a file only removes.
-/

namespace BrokerClient

namespace Machine

/-- No file or directory appears or changes at places of a kind. -/
def AddsNothing (P : Place → Prop) (m m' : Machine) : Prop :=
  ∀ place, P place → ∀ node, m'.files.node? place = some node → m.files.node? place = some node

/-- No file or directory appears or changes anywhere, nothing is asked of other
    programs, and work goes on in the same directory. -/
structure OnlyRemoves (m m' : Machine) : Prop where
  workDirectory : m'.workDirectory = m.workDirectory
  launches : m'.launches = m.launches
  replacements : m'.replacements = m.replacements
  files : ∀ place node, m'.files.node? place = some node → m.files.node? place = some node

theorem AddsNothing.frame (P : Place → Prop) : Action.Frame (AddsNothing P) where
  refl := fun _ _ _ _ h => h
  trans := fun hab hbc place hP node h => hab place hP node (hbc place hP node h)

theorem OnlyRemoves.frame : Action.Frame OnlyRemoves where
  refl := fun _ => ⟨rfl, rfl, rfl, fun _ _ h => h⟩
  trans := fun hab hbc => ⟨hbc.workDirectory.trans hab.workDirectory,
    hbc.launches.trans hab.launches, hbc.replacements.trans hab.replacements,
    fun place node h => hab.files place node (hbc.files place node h)⟩

theorem OnlyRemoves.addsNothing {m m' : Machine} (h : OnlyRemoves m m') (P : Place → Prop) :
    AddsNothing P m m' :=
  fun place _ node hnode => h.files place node hnode

/-- A change that leaves the files, the working directory and the records
    alone. -/
theorem OnlyRemoves.of_eq {m m' : Machine} (hfiles : m'.files = m.files)
    (hwork : m'.workDirectory = m.workDirectory) (hlaunches : m'.launches = m.launches)
    (hreplacements : m'.replacements = m.replacements) : OnlyRemoves m m' :=
  ⟨hwork, hlaunches, hreplacements, fun place node h => by rw [← hfiles]; exact h⟩

end Machine

namespace FileTree

/-- A tree without a node has no other nodes than before. -/
theorem node?_of_erase {t : FileTree} {place p : Place} {node : Node}
    (h : (t.erase place).node? p = some node) : t.node? p = some node := by
  by_cases hnil : p = []
  · rw [hnil] at h ⊢
    exact h
  · rw [node?_erase _ _ _ hnil] at h
    split at h
    · cases h
    · exact h

end FileTree

namespace Action

open Machine (OnlyRemoves)

theorem onlyRemoves_log (level : Log.Level) (target message : String)
    (fields : List (String × String)) {error : Option String} :
    Preserves OnlyRemoves (log level target message fields error) :=
  fun _ => .of_eq rfl rfl rfl rfl

/-- Reporting something and going on with a result only removes. -/
theorem onlyRemoves_logged {α : Type} (level : Log.Level) (target message : String)
    (fields : List (String × String)) {error : Option String} (a : α) :
    Preserves OnlyRemoves (do log level target message fields error; return a) :=
  .bind OnlyRemoves.frame (onlyRemoves_log level target message fields) fun _ =>
    .pure OnlyRemoves.frame a

theorem onlyRemoves_readFile (p : Path) : Preserves OnlyRemoves (readFile p) :=
  .of_eq OnlyRemoves.frame fun _ => rfl

/-- Removing a file only removes. -/
theorem onlyRemoves_removeFile (p : Path) : Preserves OnlyRemoves (removeFile p) := by
  intro m
  -- A removal that fails leaves the files alone.
  cases hremove : m.files.remove m.workDirectory p with
  | error e =>
    have hrun : (removeFile p).run m = (.error e, m) := run_changeFiles_error hremove
    rw [hrun]
    exact OnlyRemoves.frame.refl m
  | ok files =>
    have hrun : (removeFile p).run m = (.ok (), { m with files }) := run_changeFiles_ok hremove
    rcases FileTree.exists_of_remove hremove with ⟨place, content, mode, -, -, rfl⟩
    rw [hrun]
    exact ⟨rfl, rfl, rfl, fun _ _ h => FileTree.node?_of_erase h⟩

end Action

end BrokerClient
