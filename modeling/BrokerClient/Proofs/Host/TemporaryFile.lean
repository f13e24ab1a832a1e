import BrokerClient.Proofs.Files.Lookup
import BrokerClient.Proofs.Host.Action
import BrokerClient.Proofs.Text.Encoding

/-!
# Temporary Files

A temporary file is created in an absolute directory, whatever directory was
asked for, so its path leads to the same place from everywhere. Its name is a
single segment of letters, digits and the two fixed ends. Names are tried one
after the other, and a file is created at one of them or at none.

## Theorems

* `Temporary.isAbsolute_directory`: Temporary files have absolute paths.
* `Temporary.isName_name`: Temporary names are names of entries.
* `Temporary.exists_of_tryNames`: The name that was free.
* `Action.run_createTemporary_cases`: What creating a temporary file leaves behind.
* `Action.run_dropTemporary`: What taking a temporary file away leaves behind.
* `Action.exists_of_createTemporary`: Where a temporary file was created.
-/

namespace BrokerClient

namespace Temporary

/-! ## Names and directories -/

theorem isAbsolute_path (place : Place) : Path.isAbsolute (Place.path place) = true := by
  cases place with
  | nil => rfl
  | cons name rest => rfl

theorem isAbsolute_directory (work : Place) (dir : Path) :
    Path.isAbsolute (directory work dir) = true := by
  unfold directory
  split
  · next h => exact h
  · exact Path.isAbsolute_join (isAbsolute_path work) dir

theorem mem_alphabet_of_mem_word {c : Char} {k n : Nat} (h : c ∈ word k n) : c ∈ alphabet := by
  induction k generalizing n with
  | zero => cases h
  | succ k ih =>
    unfold word at h
    rcases List.mem_append.mp h with h | h
    · exact ih h
    · rw [List.mem_singleton.mp h, List.getD_eq_getElem?_getD]
      rcases hget : alphabet[n % 62]? with _ | d
      · decide
      · exact List.mem_of_getElem? hget

theorem slash_notMem_encode_word (k n : Nat) : Path.slash ∉ Utf8.encode (word k n) := by
  have halphabet : '/' ∉ alphabet := by decide
  exact Utf8.notMem_encode (by decide) fun hslash => halphabet (mem_alphabet_of_mem_word hslash)

/-- A temporary name is the name of an entry, if its ends have no slash and it
    does not begin with a dot. -/
theorem isName_name {front back : OsText} (n : Nat) {b : UInt8}
    (hhead : front.bytes.head? = some b) (hdot : b ≠ Path.dot) (hfront : Path.slash ∉ front.bytes)
    (hback : Path.slash ∉ back.bytes) : Path.IsName (name front back n).bytes := by
  have hbytes : (name front back n).bytes =
      front.bytes ++ Utf8.encode (word letters n) ++ back.bytes := rfl
  have hfirst : (name front back n).bytes.head? = some b := by
    rw [hbytes, List.append_assoc, List.head?_append, hhead]
    rfl
  -- The name begins like its fixed front, so not with a dot.
  have hne : ∀ rest, (name front back n).bytes ≠ Path.dot :: rest := by
    intro rest h
    rw [h] at hfirst
    exact hdot (Option.some.inj hfirst).symm
  refine ⟨?_, hne [], hne [Path.dot], ?_⟩
  · intro h
    rw [h] at hfirst
    cases hfirst
  · rw [hbytes]
    intro h
    rcases List.mem_append.mp h with h | h
    · rcases List.mem_append.mp h with h | h
      · exact hfront h
      · exact slash_notMem_encode_word _ _ h
    · exact hback h

/-! ## Trying names -/

/-- A file is created under one of the names, and the names before it changed
    nothing. -/
theorem exists_of_tryNames {files made : FileTree} {work place : Place} {dir p : Path}
    {front back : OsText} {mode tries n : Nat}
    (h : tryNames files work dir front back mode tries n = .ok (made, p, place)) :
    ∃ k, p = Path.join dir (name front back k) ∧
      files.create work p [] mode = .ok (made, place) := by
  induction tries generalizing n with
  | zero => cases h
  | succ tries ih =>
    unfold tryNames at h
    simp only at h
    split at h
    · next made' place' hcreate =>
      cases h
      exact ⟨n, rfl, hcreate⟩
    -- Another name is tried only if this one was taken.
    · split at h
      · exact ih h
      · cases h

end Temporary

/-- Creating a temporary file makes an empty file under a free name, or leaves
    everything as it was. -/
theorem Action.run_createTemporary_cases (dir : Path) (front back : OsText) (mode : Nat)
    (m : Machine) :
    (∃ e p, (createTemporary dir front back mode).run m = (.error (e, p), m)) ∨
    (∃ p place made n, (createTemporary dir front back mode).run m =
        (.ok (p, place), { m with files := made, nextName := m.nextName + 1 }) ∧
      p = Path.join (Temporary.directory m.workDirectory dir) (Temporary.name front back n) ∧
      m.files.create m.workDirectory p [] mode = .ok (made, place)) := by
  unfold createTemporary
  rw [run_bind, run_get]
  simp only
  cases htry : Temporary.tryNames m.files m.workDirectory
      (Temporary.directory m.workDirectory dir) front back mode (m.files.entries.length + 1)
      m.nextName with
  | error e =>
    left
    exact ⟨e.1, e.2, rfl⟩
  | ok found =>
    right
    rcases found with ⟨made, p, place⟩
    rcases Temporary.exists_of_tryNames htry with ⟨n, hp, hcreate⟩
    exact ⟨p, place, made, n, rfl, hp, hcreate⟩

/-- Taking a temporary file away is removing it, if that can be done. -/
theorem Action.run_dropTemporary {m : Machine} {p : Path} {files : FileTree}
    (h : m.files.remove m.workDirectory p = .ok files) :
    (dropTemporary p).run m = (⟨⟩, { m with files }) := by
  have hremove : (removeFile p).run m = (.ok (), { m with files }) := run_changeFiles_ok h
  unfold dropTemporary
  rw [run_bind, hremove]
  rfl

/-- What it means that a temporary file was created. -/
theorem Action.exists_of_createTemporary {dir p : Path} {front back : OsText} {mode : Nat}
    {m : Machine} {place : Place}
    (h : ((createTemporary dir front back mode).run m).1 = .ok (p, place)) :
    ∃ n, p = Path.join (Temporary.directory m.workDirectory dir) (Temporary.name front back n) ∧
      m.files.create m.workDirectory p [] mode =
        .ok (((createTemporary dir front back mode).run m).2.files, place) := by
  rcases run_createTemporary_cases dir front back mode m with
    ⟨e, q, hrun⟩ | ⟨q, found, made, n, hrun, hq, hcreate⟩
  · rw [hrun] at h
    cases h
  · rw [hrun] at h ⊢
    cases h
    exact ⟨n, hq, hcreate⟩

end BrokerClient
