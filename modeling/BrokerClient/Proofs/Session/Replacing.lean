import BrokerClient.Proofs.Host.Requests
import BrokerClient.Proofs.Host.TemporaryFile
import BrokerClient.Session.CookieFile

/-!
# Replacing Cookie Files

A cookie file is written under another name, brought to the disk, and moved into
place only then. Whatever fails on the way, the cookie file of before is still
there, and the file under the other name is taken away again. So after the
attempt there is the old file or all of the new one, and no other file tells
that there was an attempt.

Creation can fail, and so can writing, bringing to the disk and the move. Behind
the creation there is one argument for all of them: whatever has come into a new
file by then, without the file the tree is what it was.

## Theorems

* `CookieFile.run_fillAndMove_cases`: What becomes of the new file.
* `CookieFile.replace_all_or_nothing`: A cookie file is replaced, or all files are as before.
-/

namespace BrokerClient

namespace CookieFile

/-- The new file is complete and moved, or it still stands at its place with
    whatever has come into it. -/
theorem run_fillAndMove_cases (path : Path) (content : List UInt8) (place : Place) (m : Machine) :
    (∃ e part k, (fillAndMove path content place).run m =
        (.error e, Action.filled m place part fileMode k)) ∨
    (∃ files, m.refusal? 2 = none ∧
      (m.files.insert place (.file content fileMode)).rename m.workDirectory place path =
        .ok files ∧
      (fillAndMove path content place).run m =
        (.ok (), { Action.filled m place content fileMode 2 with files })) := by
  unfold fillAndMove
  rw [Action.run_bind]
  rcases Action.run_save_cases place content fileMode 1 m with
    ⟨refusal, part, k, hrefused, hsave⟩ | ⟨hwritten, hsave⟩
  · left
    rw [hsave]
    exact ⟨refusal.error, part, k, rfl⟩
  · rw [hsave]
    simp only
    cases hrename : (m.files.insert place (.file content fileMode)).rename m.workDirectory place
        path with
    | error e =>
      left
      have hmove : (Action.renameFile place path).run (Action.filled m place content fileMode 2) =
          _ := Action.run_changeFiles_error hrename
      exact ⟨e, content, 2, hmove⟩
    | ok files =>
      right
      have hmove : (Action.renameFile place path).run (Action.filled m place content fileMode 2) =
          _ := Action.run_changeFiles_ok hrename
      exact ⟨files, hwritten, rfl, hmove⟩

/-- A cookie file is replaced as a whole, and then nothing else has changed, or
    the attempt fails and all files are as before. -/
theorem replace_all_or_nothing (path : Path) (content : List UInt8) (m : Machine) :
    (∃ e, ((replace path content).run m).1 = .error e ∧
      ((replace path content).run m).2.files = m.files) ∨
    (((replace path content).run m).1 = .ok () ∧ m.refusal? 2 = none ∧
      ((replace path content).run m).2.files.read m.workDirectory path = .ok content ∧
      ∃ place, ((replace path content).run m).2.files.locate m.workDirectory path = .ok place ∧
        ∀ other, other ≠ place →
          ((replace path content).run m).2.files.node? other = m.files.node? other) := by
  unfold replace
  cases Path.parent? path with
  | none => exact .inl ⟨_, rfl, rfl⟩
  | some parent =>
    simp only
    rw [Action.run_bind]
    rcases Action.run_createTemporary_cases parent (temporaryFront path) .empty fileMode m with
      ⟨e, p, hrun⟩ | ⟨temporary, place, made, n, hrun, htemporary, hcreate⟩
    · left
      rw [hrun]
      exact ⟨_, rfl, rfl⟩
    · have habsolute : Path.isAbsolute temporary = true := by
        rw [htemporary]
        exact Path.isAbsolute_join (Temporary.isAbsolute_directory _ _) _
      rw [hrun]
      simp only
      rw [Action.run_bind]
      rcases run_fillAndMove_cases path content place
        { m with files := made, nextName := m.nextName + 1 } with
        ⟨e, part, k, hfill⟩ | ⟨files, hwritten, hrename, hfill⟩
      · left
        have hremove : (made.insert place (.file part fileMode)).remove m.workDirectory temporary =
            .ok m.files := FileTree.remove_of_create hcreate habsolute part fileMode m.workDirectory
        rw [hfill]
        simp only
        rw [Action.run_bind, Action.run_dropTemporary hremove]
        exact ⟨e, rfl, rfl⟩
      · right
        rcases FileTree.read_of_create_rename hcreate hrename with ⟨hread, hplace⟩
        rw [hfill]
        exact ⟨rfl, hwritten, hread, hplace⟩

end CookieFile

end BrokerClient
