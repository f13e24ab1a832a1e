import BrokerClient.Proofs.Config.Discovery
import Mathlib.Data.List.Chain

/-!
# Repetitions in the Report

The report of configuration files is to list no file twice. Its sources may name one file in
any pattern, and repetitions are only dropped among neighbours, before it is known which paths
lead to files. So a file is listed once exactly if nothing else stands between its occurrences
among the sources, not even a path that leads nowhere (`Discovery.files_distinct_iff`).

Neighbours in what is left differ. If a path occurs twice nevertheless, there is another one
in between (`Discovery.exists_between`), which was there before. Conversely, a path behind a
different one is never dropped for the sake of what stands in front of that
(`Discovery.exists_behind`).

## Main definitions

* `Discovery.Distinct`: No path occurs twice in a list.
* `Discovery.Clustered`: Nothing stands between two occurrences of a path that passes a check.

## Theorems

* `Discovery.dropRepeated_sublist`: What is left is in the same order.
* `Discovery.exists_same_of_mem`: Every path is left in some spelling.
* `Discovery.exists_sublist_dropRepeated`: Occurrences with another path between them are left.
* `Discovery.files_distinct_iff`: When no file is listed twice.
* `Discovery.homeFile_listed_twice`: A file that is.
-/

namespace BrokerClient

namespace Discovery

/-- No path occurs twice, in whatever spelling. -/
def Distinct (paths : List Path) : Prop := paths.Pairwise fun p q => Path.same p q = false

/-- Between two occurrences of a path that passes a check there are only further ones. -/
def Clustered (check : Path → Bool) (paths : List Path) : Prop :=
  ∀ p r q, [p, r, q].Sublist paths → Path.same p q = true → check p = true →
    Path.same p r = true

/-! ## What is left -/

variable {kept p q r : Path} {paths : List Path}

theorem go_sublist (kept : Path) (paths : List Path) :
    (dropRepeated.go kept paths).Sublist paths := by
  induction paths generalizing kept with
  | nil => exact .slnil
  | cons q rest ih =>
    rw [dropRepeated.go]
    split
    · exact (ih kept).cons q
    · exact (ih q).cons_cons q

/-- What is left is in the same order. -/
theorem dropRepeated_sublist (paths : List Path) : (dropRepeated paths).Sublist paths := by
  cases paths with
  | nil => exact .slnil
  | cons p rest => exact (go_sublist p rest).cons_cons p

theorem isChain_go (kept : Path) (paths : List Path) :
    (kept :: dropRepeated.go kept paths).IsChain fun p q => Path.same p q = false := by
  induction paths generalizing kept with
  | nil => exact .singleton kept
  | cons q rest ih =>
    rw [dropRepeated.go]
    split
    · exact ih kept
    · next hne => exact .cons_cons (Bool.eq_false_iff.mpr hne) (ih q)

/-- Neighbours are different. -/
theorem isChain_dropRepeated (paths : List Path) :
    (dropRepeated paths).IsChain fun p q => Path.same p q = false := by
  cases paths with
  | nil => exact .nil
  | cons p rest => exact isChain_go p rest

/-- If neighbours are different, two occurrences of a path have another one between them. -/
theorem exists_between (hchain : paths.IsChain fun p q => Path.same p q = false)
    (h : [p, q].Sublist paths) (hsame : Path.same p q = true) :
    ∃ r, [p, r, q].Sublist paths ∧ Path.same p r = false := by
  induction paths with
  | nil => cases h
  | cons first rest ih =>
    cases h with
    | cons _ h =>
      rcases ih hchain.tail h with ⟨r, hr, hne⟩
      exact ⟨r, hr.cons first, hne⟩
    | cons_cons _ h =>
      cases rest with
      | nil => cases h
      | cons second rest =>
        have hne := hchain.rel
        cases h with
        | cons _ h => exact ⟨second, (h.cons_cons second).cons_cons p, hne⟩
        | cons_cons _ h =>
          rw [hsame] at hne
          cases hne

/-! ## What is dropped -/

/-- Every path is left in some spelling. -/
theorem exists_same_of_mem_go (h : q ∈ kept :: paths) :
    ∃ q' ∈ kept :: dropRepeated.go kept paths, Path.same q q' = true := by
  induction paths generalizing kept with
  | nil => exact ⟨q, h, Path.same_refl q⟩
  | cons first rest ih =>
    rcases List.mem_cons.mp h with rfl | h
    · exact ⟨q, List.mem_cons_self, Path.same_refl q⟩
    rw [dropRepeated.go]
    split
    · next hsame =>
      rcases List.mem_cons.mp h with rfl | h
      · exact ⟨kept, List.mem_cons_self, Path.same_symm hsame⟩
      · exact ih (List.mem_cons_of_mem kept h)
    · rcases ih h with ⟨q', hq', hsame⟩
      exact ⟨q', List.mem_cons_of_mem kept hq', hsame⟩

theorem exists_same_of_mem (h : q ∈ paths) :
    ∃ q' ∈ dropRepeated paths, Path.same q q' = true := by
  cases paths with
  | nil => cases h
  | cons p rest => exact exists_same_of_mem_go h

/-- A path behind a different one is left behind what was kept in front of both. -/
theorem exists_behind (h : [r, q].Sublist paths) (hne : Path.same kept r = false) :
    ∃ q' ∈ dropRepeated.go kept paths, Path.same q q' = true := by
  induction paths with
  | nil => cases h
  | cons first rest ih =>
    rw [dropRepeated.go]
    split
    · next hsame =>
      cases h with
      | cons _ h => exact ih h
      | cons_cons _ h =>
        rw [hsame] at hne
        cases hne
    · exact exists_same_of_mem_go (h.subset (List.mem_cons_of_mem r List.mem_cons_self))

/-- Occurrences with another path between them are both left. -/
theorem exists_sublist_go (h : [p, r, q].Sublist (kept :: paths)) (hne : Path.same p r = false) :
    ∃ p' q', [p', q'].Sublist (kept :: dropRepeated.go kept paths) ∧
      Path.same p p' = true ∧ Path.same q q' = true := by
  induction paths generalizing kept with
  | nil =>
    have hlength := h.length_le
    simp at hlength
  | cons first rest ih =>
    cases h with
    | cons_cons _ h =>
      rcases exists_behind h hne with ⟨q', hq', hsame⟩
      exact ⟨p, q', (List.singleton_sublist.mpr hq').cons_cons p, Path.same_refl p, hsame⟩
    | cons _ h =>
      rw [dropRepeated.go]
      split
      · next hfirst =>
        cases h with
        | cons _ h => exact ih (h.cons kept)
        | cons_cons _ h =>
          -- The first of them is dropped for the sake of the path that is kept.
          have hkept : Path.same kept r = false := by
            refine Bool.eq_false_iff.mpr fun hsame => ?_
            rw [Path.same_trans (Path.same_symm hfirst) hsame] at hne
            cases hne
          rcases exists_behind h hkept with ⟨q', hq', hsame⟩
          exact ⟨kept, q', (List.singleton_sublist.mpr hq').cons_cons kept,
            Path.same_symm hfirst, hsame⟩
      · rcases ih h with ⟨p', q', hsub, hp, hq⟩
        exact ⟨p', q', hsub.cons kept, hp, hq⟩

theorem exists_sublist_dropRepeated (h : [p, r, q].Sublist paths) (hne : Path.same p r = false) :
    ∃ p' q', [p', q'].Sublist (dropRepeated paths) ∧
      Path.same p p' = true ∧ Path.same q q' = true := by
  cases paths with
  | nil => cases h
  | cons first rest => exact exists_sublist_go h hne

/-! ## The report -/

variable {m : Machine} {arguments : List OsText}

theorem files_sublist (m : Machine) (arguments : List OsText) :
    (files m arguments).Sublist (sources m arguments) :=
  List.filter_sublist.trans (dropRepeated_sublist _)

/-- Files whose occurrences are not interrupted are listed once. -/
theorem distinct_of_clustered (h : Clustered (isFileOn m) (sources m arguments)) :
    Distinct (files m arguments) := by
  refine List.pairwise_iff_forall_sublist.mpr fun {p q} hsub => ?_
  refine Bool.eq_false_iff.mpr fun hsame => ?_
  have hleft : [p, q].Sublist (dropRepeated (sources m arguments)) :=
    hsub.trans List.filter_sublist
  rcases exists_between (isChain_dropRepeated _) hleft hsame with ⟨r, hr, hne⟩
  have hfile : isFileOn m p = true := (List.mem_filter.mp (hsub.subset List.mem_cons_self)).2
  rw [h p r q (hr.trans (dropRepeated_sublist _)) hsame hfile] at hne
  cases hne

/-- A file whose occurrences are interrupted is listed again. -/
theorem clustered_of_distinct (hagree : Agree (isFileOn m) (sources m arguments))
    (h : Distinct (files m arguments)) : Clustered (isFileOn m) (sources m arguments) := by
  intro p r q hsub hsame hfile
  refine Bool.of_not_eq_false fun hne => ?_
  rcases exists_sublist_dropRepeated hsub hne with ⟨p', q', hleft, hp, hq⟩
  have hsources := hleft.trans (dropRepeated_sublist _)
  have hp' : isFileOn m p' = true := by
    rw [← hfile]
    exact (hagree p (hsub.subset (by simp)) p' (hsources.subset (by simp)) hp).symm
  have hq' : isFileOn m q' = true := by
    rw [← hfile]
    exact (hagree p (hsub.subset (by simp)) q' (hsources.subset (by simp))
      (Path.same_trans hsame hq)).symm
  have hfiles : [p', q'].Sublist (files m arguments) := by
    have hfilter := hleft.filter (isFileOn m)
    rwa [List.filter_cons_of_pos hp', List.filter_cons_of_pos hq', List.filter_nil] at hfilter
  have hdistinct := List.pairwise_iff_forall_sublist.mp h hfiles
  rw [Path.same_trans (Path.same_symm hp) (Path.same_trans hsame hq)] at hdistinct
  cases hdistinct

/-- The report lists files only, in the order of the sources. It lists none of them twice if
    nothing stands between their occurrences among the sources. As long as no path has
    spellings of which only some lead to a file, it lists all files, and lists none of them
    twice exactly in that case. -/
theorem files_distinct_iff (m : Machine) (arguments : List OsText) :
    (∀ p ∈ files m arguments, m.files.isFile m.workDirectory p = true) ∧
    (files m arguments).Sublist (sources m arguments) ∧
    (Clustered (isFileOn m) (sources m arguments) → Distinct (files m arguments)) ∧
    (Agree (isFileOn m) (sources m arguments) →
      (∀ p ∈ sources m arguments, isFileOn m p = true →
        ∃ q ∈ files m arguments, Path.same p q = true) ∧
      (Distinct (files m arguments) ↔ Clustered (isFileOn m) (sources m arguments))) := by
  refine ⟨fun p hp => (List.mem_filter.mp hp).2, files_sublist m arguments,
    distinct_of_clustered, fun hagree =>
      ⟨fun p hp hfile => ?_, clustered_of_distinct hagree, distinct_of_clustered⟩⟩
  rcases exists_same_of_mem hp with ⟨q, hq, hsame⟩
  refine ⟨q, List.mem_filter.mpr ⟨hq, ?_⟩, hsame⟩
  rw [← hfile]
  exact (hagree p hp q ((dropRepeated_sublist _).subset hq) hsame).symm

/-- Four sources name the file in the home directory, which is the working directory, too. -/
theorem files_distinct_iff_fourSources :
    let m : Machine := { (default : Machine) with
      files := ⟨[(["h"], .directory 0o755), (["h", ".tcf.toml"], .file [] 0o644)]⟩
      workDirectory := ["h"]
      environment := ⟨[("HOME", "/h"), ("TCF_CONFIG_PATH", "/h//.tcf.toml")]⟩ }
    let arguments : List OsText := ["tcf", "--config-path=/h/./.tcf.toml"]
    let file : Path := "/h/.tcf.toml"
    Agree (isFileOn m) (sources m arguments) ∧ (sources m arguments).length = 5 ∧
      files m arguments = [file] ∧ Distinct (files m arguments) ∧
      Clustered (isFileOn m) (sources m arguments) := by
  intro m arguments file
  have hagree : Agree (isFileOn m) (sources m arguments) := by
    unfold Agree
    decide +kernel
  have hfiles : files m arguments = [file] := by decide +kernel
  have hdistinct : Distinct (files m arguments) := by
    rw [hfiles]
    exact List.pairwise_singleton _ _
  exact ⟨hagree, by decide +kernel, hfiles, hdistinct,
    ((files_distinct_iff m arguments).2.2.2 hagree).2.mp hdistinct⟩

/-- The variable names the file in the home directory, and the place in the working directory,
    where there is no file, stands between the two. -/
theorem homeFile_listed_twice :
    let m : Machine := { (default : Machine) with
      files := ⟨[(["h"], .directory 0o755), (["h", ".tcf.toml"], .file [] 0o644),
        (["w"], .directory 0o755)]⟩
      workDirectory := ["w"]
      environment := ⟨[("HOME", "/h"), ("TCF_CONFIG_PATH", "/h/.tcf.toml")]⟩ }
    let file : Path := "/h/.tcf.toml"
    files m ["tcf"] = [file, file] ∧ ¬Distinct (files m ["tcf"]) := by
  intro m file
  have hfiles : files m ["tcf"] = [file, file] := by decide +kernel
  refine ⟨hfiles, fun h => ?_⟩
  rw [hfiles] at h
  have hne := List.rel_of_pairwise_cons h List.mem_cons_self
  rw [Path.same_refl] at hne
  cases hne

end Discovery

end BrokerClient
