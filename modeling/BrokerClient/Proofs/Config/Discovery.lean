import BrokerClient.Config.Discovery

/-!
# The Ranking of the Report

The report of configuration files lists what it finds from the lowest rank to the highest,
so the last entry is the file that it holds to be the one that counts. That is the first
file in the order of ranks: paths in the arguments, the variable, the working directory, the
home directory, the directory for configuration (`Discovery.getLast?_files`).

Neighbours with the same components are listed once, by the first spelling. If spellings
of one path differ in whether they lead to a file, as one does with a slash at its end, the
file may be dropped for the sake of the other. The ranking says nothing about such paths.

## Main definitions

* `Discovery.ranking`: The places that the report looks at, from the highest rank down.
* `Discovery.SameResult`: Two searches have the same result, up to spelling.
* `Discovery.Agree`: Spellings of one path pass a check together.

## Theorems

* `Discovery.sameResult_dropRepeated`: Dropping repetitions leaves the last path that passes, up
  to its spelling.
* `Discovery.getLast?_files`: The last entry of the report is the first file in the ranking.
-/

namespace BrokerClient

namespace Path

theorem same_iff {p q : Path} : same p q = true ↔ components p = components q := decide_eq_true_iff

theorem same_refl (p : Path) : same p p = true := same_iff.mpr rfl

theorem same_trans {p q r : Path} (h : same p q = true) (h' : same q r = true) :
    same p r = true :=
  same_iff.mpr ((same_iff.mp h).trans (same_iff.mp h'))

theorem same_symm {p q : Path} (h : same p q = true) : same q p = true :=
  same_iff.mpr (same_iff.mp h).symm

end Path

namespace Discovery

/-! ## Repetitions -/

/-- Two results of a search that are the same path, or both nothing. -/
def SameResult : Option Path → Option Path → Prop := Option.Rel fun p q => Path.same p q = true

theorem SameResult.refl (p : Option Path) : SameResult p p := by
  cases p with
  | none => exact .none
  | some p => exact .some (Path.same_refl p)

theorem SameResult.trans {p q r : Option Path} (h : SameResult p q) (h' : SameResult q r) :
    SameResult p r := by
  cases h with
  | none => exact h'
  | some h =>
    cases h' with
    | some h' => exact .some (Path.same_trans h h')

theorem SameResult.or {p p' q q' : Option Path} (h : SameResult p p') (h' : SameResult q q') :
    SameResult (p.or q) (p'.or q') := by
  cases h with
  | none => exact h'
  | some h => exact .some h

theorem SameResult.or_self {p q : Option Path} (h : SameResult p q) : SameResult p (q.or p) := by
  cases h with
  | none => exact .none
  | some h => exact .some h

/-- Spellings of one path pass a check together. -/
def Agree (check : Path → Bool) (paths : List Path) : Prop :=
  ∀ p ∈ paths, ∀ q ∈ paths, Path.same p q = true → check p = check q

theorem Agree.mono {check : Path → Bool} {paths part : List Path} (h : Agree check paths)
    (hsub : ∀ p ∈ part, p ∈ paths) : Agree check part :=
  fun p hp q hq => h p (hsub p hp) q (hsub q hq)

variable {check : Path → Bool}

/-- A search for the last path that passes, in a list with one more path in front. -/
theorem find?_reverse_cons (p : Path) (paths : List Path) :
    (p :: paths).reverse.find? check = (paths.reverse.find? check).or ([p].find? check) := by
  rw [List.reverse_cons, List.find?_append]

/-- Spellings of one path are found together. -/
theorem sameResult_find?_singleton {p q : Path} (hsame : Path.same p q = true)
    (hcheck : check p = check q) : SameResult ([p].find? check) ([q].find? check) := by
  rw [List.find?_singleton, List.find?_singleton, hcheck]
  cases check q with
  | true => exact .some hsame
  | false => exact .none

theorem sameResult_go {kept : Path} {paths : List Path} (h : Agree check (kept :: paths)) :
    SameResult ((kept :: dropRepeated.go kept paths).reverse.find? check)
      ((kept :: paths).reverse.find? check) := by
  induction paths generalizing kept with
  | nil => exact .refl _
  | cons q rest ih =>
    rw [dropRepeated.go]
    split
    · next hsame =>
      have hrest : Agree check (kept :: rest) := h.mono fun p hp => by
        rcases List.mem_cons.mp hp with rfl | hp
        · exact List.mem_cons_self
        · exact List.mem_cons_of_mem _ (List.mem_cons_of_mem _ hp)
      refine (ih hrest).trans ?_
      -- The path that is dropped passes exactly if the one that was kept does.
      have hcheck := h kept List.mem_cons_self q (List.mem_cons_of_mem _ List.mem_cons_self) hsame
      rw [find?_reverse_cons, find?_reverse_cons kept (q :: rest), find?_reverse_cons q,
        Option.or_assoc]
      exact (SameResult.refl _).or (sameResult_find?_singleton hsame hcheck).or_self
    · rw [find?_reverse_cons, find?_reverse_cons kept (q :: rest)]
      exact (ih (h.mono fun p hp => List.mem_cons_of_mem _ hp)).or (.refl _)

/-- Dropping repetitions leaves the last path that passes, up to its spelling. -/
theorem sameResult_dropRepeated {paths : List Path} (h : Agree check paths) :
    SameResult ((dropRepeated paths).reverse.find? check) (paths.reverse.find? check) := by
  cases paths with
  | nil => exact .refl _
  | cons p rest => exact sameResult_go h

theorem mem_go {kept p : Path} {paths : List Path} (h : p ∈ dropRepeated.go kept paths) :
    p ∈ paths := by
  induction paths generalizing kept with
  | nil => cases h
  | cons q rest ih =>
    rw [dropRepeated.go] at h
    split at h
    · exact List.mem_cons_of_mem q (ih h)
    · rcases List.mem_cons.mp h with rfl | h
      · exact List.mem_cons_self
      · exact List.mem_cons_of_mem q (ih h)

theorem mem_of_mem_dropRepeated {p : Path} {paths : List Path} (h : p ∈ dropRepeated paths) :
    p ∈ paths := by
  cases paths with
  | nil => exact h
  | cons q rest =>
    rcases List.mem_cons.mp h with rfl | h
    · exact List.mem_cons_self
    · exact List.mem_cons_of_mem q (mem_go h)

/-! ## Ranks -/

variable {m : Machine} {arguments : List OsText}

/-- The places that the report looks at, from the highest rank down. -/
def ranking (m : Machine) (arguments : List OsText) : List Path := (sources m arguments).reverse

/-- The arguments have the highest rank, and the directory for configuration has the lowest. -/
theorem ranking_eq (m : Machine) (arguments : List OsText) :
    ranking m arguments = (argumentPaths arguments).reverse ++ (variablePlace? m).toList ++
      workPlace m :: (homePlace? m).toList ++ (configPlace? m).toList := by
  have hreverse : ∀ p : Option Path, p.toList.reverse = p.toList := by
    intro p
    cases p <;> rfl
  unfold ranking sources
  simp only [List.reverse_append, List.reverse_cons, hreverse, List.append_assoc,
    List.cons_append, List.nil_append]

/-- Whether a path leads to a file. -/
def isFileOn (m : Machine) (p : Path) : Bool := m.files.isFile m.workDirectory p

theorem mem_ranking_of_mem_files {p : Path} (h : p ∈ files m arguments) :
    p ∈ ranking m arguments ∧ isFileOn m p = true := by
  rcases List.mem_filter.mp h with ⟨hmem, hfile⟩
  exact ⟨List.mem_reverse.mpr (mem_of_mem_dropRepeated hmem), hfile⟩

/-- The last entry of the report is the first file in the ranking, up to its spelling. -/
theorem getLast?_files (h : Agree (isFileOn m) (ranking m arguments)) :
    SameResult (files m arguments).getLast? ((ranking m arguments).find? (isFileOn m)) := by
  have hagree : Agree (isFileOn m) (sources m arguments) :=
    h.mono fun p hp => List.mem_reverse.mpr hp
  unfold files
  rw [List.getLast?_filter]
  exact sameResult_dropRepeated hagree

end Discovery

end BrokerClient
