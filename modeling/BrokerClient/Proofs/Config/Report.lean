import BrokerClient.Proofs.Config.Arguments
import BrokerClient.Proofs.Config.Discovery
import BrokerClient.Proofs.Config.Loading
import Mathlib.Control.Monad.Basic

/-!
# The Report and the Loader

The report of configuration files is to end with the file that the settings were taken from.
It has its own order of places. The loader prefers the directories for configuration to the
home directory, and that to the working directory; the report ranks them the other way
round. So it ends with the file of the settings exactly if that file is the first one in the
ranking (`Config.report_ends_iff`). A flag comes first in both orders, and so does the
variable behind it. But a file in the working directory hides the one in the home directory
from the end of the report, although the settings come from the latter.

If the settings come from no file, the report is empty, unless the home directory is the one
of the account. The loader only knows the variable for it.

## Main definitions

* `Discovery.EndsWith`: The report ends with a path.

## Theorems

* `Discovery.endsWith_iff`: With what the report ends.
* `Config.homePlace?_mem_candidates`, `Config.configPlace?_mem_candidates`: With the variable, the
  loader knows the places that depend on the home directory.
* `Config.report_ends_iff`: When the report ends with the file of the settings.
-/

namespace BrokerClient

namespace Discovery

/-- The report ends with a path, in some spelling. -/
def EndsWith (m : Machine) (arguments : List OsText) (p : Path) : Prop :=
  ∃ last, (files m arguments).getLast? = some last ∧ Path.same last p = true

variable {m : Machine} {arguments : List OsText} {p : Path}

/-- The report ends with the first file in the ranking. -/
theorem endsWith_iff (h : Agree (isFileOn m) (ranking m arguments)) :
    EndsWith m arguments p ↔
      ∃ first, (ranking m arguments).find? (isFileOn m) = some first ∧
        Path.same first p = true := by
  have hlast := getLast?_files h
  unfold EndsWith
  generalize (files m arguments).getLast? = last at hlast
  generalize (ranking m arguments).find? (isFileOn m) = first at hlast
  cases hlast with
  | none => exact ⟨nofun, nofun⟩
  | @some last first hsame =>
    constructor
    · rintro ⟨_, hlast, hp⟩
      obtain rfl := Option.some.inj hlast
      exact ⟨first, rfl, Path.same_trans (Path.same_symm hsame) hp⟩
    · rintro ⟨_, hfirst, hp⟩
      obtain rfl := Option.some.inj hfirst
      exact ⟨last, rfl, Path.same_trans hsame hp⟩

end Discovery

namespace Config

open Discovery (EndsWith ranking isFileOn argumentPaths configPlace? homePlace? workPlace
  variablePlace? Agree)

variable {m : Machine} {arguments : List OsText} {config : Config} {p : Path}

/-! ## Places that both know -/

/-- The places of the loader. -/
theorem mem_candidates_iff : p ∈ candidates m ↔ variablePlace? m = some p ∨
    (∃ directory, (m.environment.get? "XDG_CONFIG_HOME" = some directory ∨
        directory ∈ systemDirectories m ∨
          ∃ home, m.environment.get? "HOME" = some home ∧ Path.join home ".config" = directory) ∧
      p ∈ placesIn directory) ∨
    (∃ home, m.environment.get? "HOME" = some home ∧ Path.join home Discovery.hiddenFileName = p) ∨
    p = workPlace m := by
  unfold candidates
  simp only [List.mem_eraseDups, List.mem_append, List.mem_flatMap, List.mem_singleton,
    Option.mem_toList, Option.map_eq_some_iff, or_assoc]
  rfl

theorem get?_of_nonEmpty? {e : Environment} {name value : OsText}
    (h : e.nonEmpty? name = some value) : e.get? name = some value :=
  (Option.filter_eq_some_iff.mp h).1

/-- With the variable set, the loader knows the place in the home directory. -/
theorem homePlace?_mem_candidates {home : OsText}
    (hhome : m.environment.nonEmpty? "HOME" = some home)
    (h : homePlace? m = some p) : p ∈ candidates m := by
  unfold homePlace? Directories.home? at h
  rw [hhome] at h
  exact mem_candidates_iff.mpr
    (.inr (.inr (.inl ⟨home, get?_of_nonEmpty? hhome, Option.some.inj h⟩)))

/-- With the variable set, the loader knows the place in the directory for configuration. -/
theorem configPlace?_mem_candidates {home : OsText}
    (hhome : m.environment.nonEmpty? "HOME" = some home) (h : configPlace? m = some p) :
    p ∈ candidates m := by
  unfold configPlace? Directories.config? Directories.named? Directories.home? at h
  rw [hhome] at h
  rcases Option.map_eq_some_iff.mp h with ⟨directory, hdirectory, rfl⟩
  refine mem_candidates_iff.mpr (.inr (.inl ⟨directory, ?_, List.mem_cons_self⟩))
  cases habsolute : Directories.absolute? m "XDG_CONFIG_HOME" with
  | some absolute =>
    rw [habsolute] at hdirectory
    obtain rfl : absolute = directory := Option.some.inj hdirectory
    exact .inl (Option.filter_eq_some_iff.mp habsolute).1
  | none =>
    rw [habsolute] at hdirectory
    exact .inr (.inr ⟨home, get?_of_nonEmpty? hhome, Option.some.inj hdirectory⟩)

/-! ## The report -/

/-- Without a flag there are no paths in the arguments. -/
theorem argumentPaths_of_unnamed (h : Loaded m arguments config)
    (hunnamed : (readFlags arguments).1.filePath = none) : argumentPaths arguments = [] := by
  have hboth := Discovery.argumentPaths_of_parse h.flags
  rw [hunnamed] at hboth
  exact List.forall₂_nil_right_iff.mp hboth

/-- The path of a flag is the only one in the arguments, if it is a text. -/
theorem argumentPaths_of_named (h : Loaded m arguments config)
    (hnamed : (readFlags arguments).1.filePath = some p) (htext : p.text?.isSome = true) :
    argumentPaths arguments = [p] := by
  have hboth := Discovery.argumentPaths_of_parse h.flags
  rw [hnamed] at hboth
  rcases List.forall₂_cons_right_iff.mp hboth with ⟨q, rest, hspelled, hrest, hpaths⟩
  rw [hpaths, List.forall₂_nil_right_iff.mp hrest]
  rcases hspelled with rfl | rfl
  · rfl
  · rw [OsText.ofChars_shownChars htext]

/-- If no file counts, the report lists none, unless the home directory is not in the
    variable. -/
theorem report_of_no_file (h : Loaded m arguments config) (hbase : baseFile? m arguments = none)
    (hp : p ∈ Discovery.files m arguments) :
    m.environment.nonEmpty? "HOME" = none ∧ (homePlace? m = some p ∨ configPlace? m = some p) := by
  rcases no_file_of_loaded h hbase with ⟨hunnamed, hnone⟩
  rcases Discovery.mem_ranking_of_mem_files hp with ⟨hmem, hfile⟩
  -- The report found a file, so the loader does not look there.
  have hunknown : p ∉ candidates m := fun hcandidate => by
    rw [isFileOn, hnone p hcandidate] at hfile
    cases hfile
  have hplace : homePlace? m = some p ∨ configPlace? m = some p := by
    rw [Discovery.ranking_eq, argumentPaths_of_unnamed h hunnamed] at hmem
    simp only [List.mem_append, List.mem_cons, Option.mem_toList, List.reverse_nil,
      List.nil_append] at hmem
    rcases hmem with (hvariable | hwork | hhome) | hconfig
    · exact absurd (mem_candidates_iff.mpr (.inl hvariable)) hunknown
    · exact absurd (mem_candidates_iff.mpr (.inr (.inr (.inr hwork)))) hunknown
    · exact .inl hhome
    · exact .inr hconfig
  refine ⟨Option.eq_none_iff_forall_ne_some.mpr fun home hhome => ?_, hplace⟩
  rcases hplace with hplace | hplace
  · exact hunknown (homePlace?_mem_candidates hhome hplace)
  · exact hunknown (configPlace?_mem_candidates hhome hplace)

/-- When the report ends with the file that the settings were taken from, as long as no path
    has spellings of which only some lead to a file, and what it lists if they were taken from
    no file. -/
theorem report_ends_iff (h : load m arguments = .ok config) :
    (∀ file, baseFile? m arguments = some file → Agree (isFileOn m) (ranking m arguments) →
      (EndsWith m arguments file.path ↔ ∃ first,
        (ranking m arguments).find? (isFileOn m) = some first ∧
          Path.same first file.path = true) ∧
      (∀ p, (readFlags arguments).1.filePath = some p →
        file.path = p ∧ (p.text?.isSome = true → EndsWith m arguments file.path)) ∧
      ((readFlags arguments).1.filePath = none →
        (variablePlace? m = some file.path → EndsWith m arguments file.path) ∧
        ((∀ p, variablePlace? m = some p → isFileOn m p = false) →
          isFileOn m (workPlace m) = true →
            (EndsWith m arguments file.path ↔ Path.same (workPlace m) file.path = true)))) ∧
    (baseFile? m arguments = none → ∀ p ∈ Discovery.files m arguments,
      m.environment.nonEmpty? "HOME" = none ∧
        (homePlace? m = some p ∨ configPlace? m = some p)) := by
  have hloaded := load_eq_ok_iff.mp h
  refine ⟨fun file hbase hspelling => ?_, fun hbase p hp => report_of_no_file hloaded hbase hp⟩
  have hisBase := isBase_of_loaded hloaded hbase
  have hfile : isFileOn m file.path = true := hisBase.isFile
  have hends := Discovery.endsWith_iff (p := file.path) hspelling
  refine ⟨hends, fun p hnamed => ?_,
    fun hunnamed => ⟨fun hvariable => ?_, fun hnovariable hwork => ?_⟩⟩
  · obtain rfl := hisBase.path_eq p hnamed
    refine ⟨rfl, fun htext => hends.mpr ⟨file.path, ?_, Path.same_refl _⟩⟩
    rw [Discovery.ranking_eq, argumentPaths_of_named hloaded hnamed htext]
    exact List.find?_cons_of_pos hfile
  · refine hends.mpr ⟨file.path, ?_, Path.same_refl _⟩
    rw [Discovery.ranking_eq, argumentPaths_of_unnamed hloaded hunnamed, hvariable]
    exact List.find?_cons_of_pos hfile
  · have hfirst : (ranking m arguments).find? (isFileOn m) = some (workPlace m) := by
      rw [Discovery.ranking_eq, argumentPaths_of_unnamed hloaded hunnamed]
      cases hplace : variablePlace? m with
      | none => exact List.find?_cons_of_pos hwork
      | some p =>
        refine (List.find?_cons_of_neg ?_).trans (List.find?_cons_of_pos hwork)
        exact Bool.eq_false_iff.mp (hnovariable p hplace)
    rw [hends, hfirst]
    constructor
    · rintro ⟨first, hsome, hsame⟩
      rw [Option.some.inj hsome]
      exact hsame
    · exact fun hsame => ⟨_, rfl, hsame⟩

/-- The file in a flag counts, and the report ends with it, although there is a file in the
    working directory, too. -/
theorem report_ends_iff_flag :
    let m : Machine := { (default : Machine) with
      files := ⟨[(["x.toml"], .file [] 0o644), ([".tcf.toml"], .file [] 0o644)]⟩ }
    ∃ config file, load m ["tcf", "--config-path=/x.toml"] = .ok config ∧
      baseFile? m ["tcf", "--config-path=/x.toml"] = some file ∧ file.path = "/x.toml" ∧
      EndsWith m ["tcf", "--config-path=/x.toml"] file.path := by
  intro m
  have hloads : (load m ["tcf", "--config-path=/x.toml"]).map Config.makeProgram = .ok "make" := by
    decide +kernel
  have hbase : (baseFile? m ["tcf", "--config-path=/x.toml"]).map BaseFile.path =
      some "/x.toml" := by
    decide +kernel
  have hnamed : (readFlags ["tcf", "--config-path=/x.toml"]).1.filePath = some "/x.toml" := by
    decide +kernel
  have hspelling : Agree (isFileOn m) (ranking m ["tcf", "--config-path=/x.toml"]) := by
    unfold Agree
    decide +kernel
  rcases exists_of_map_eq_ok hloads with ⟨config, hload, -⟩
  rcases Option.map_eq_some_iff.mp hbase with ⟨file, hfile, hpath⟩
  rcases ((report_ends_iff hload).1 file hfile hspelling).2.1 _ hnamed with ⟨-, hends⟩
  exact ⟨config, file, hload, hfile, hpath, hends (by decide +kernel)⟩

/-- The settings come from the file in the home directory, and the report ends with the one in
    the working directory. -/
theorem report_hides_homeFile :
    let m : Machine := { (default : Machine) with
      files := ⟨[(["h"], .directory 0o755), (["w"], .directory 0o755),
        (["h", ".tcf.toml"], .file (Utf8.encode "make_program = \"gmake\"\n".toList) 0o644),
        (["w", ".tcf.toml"], .file [] 0o644)]⟩
      workDirectory := ["w"]
      environment := ⟨[("HOME", "/h")]⟩ }
    (load m ["tcf"]).map Config.makeProgram = .ok "gmake" ∧
      (baseFile? m ["tcf"]).map BaseFile.path = some "/h/.tcf.toml" ∧
      Discovery.files m ["tcf"] = ["/h/.tcf.toml", "/w/.tcf.toml"] ∧
      ¬ EndsWith m ["tcf"] "/h/.tcf.toml" := by
  intro m
  have hfiles : Discovery.files m ["tcf"] = ["/h/.tcf.toml", "/w/.tcf.toml"] := by
    decide +kernel
  refine ⟨by decide +kernel, by decide +kernel, hfiles, ?_⟩
  rintro ⟨last, hlast, hsame⟩
  rw [hfiles] at hlast
  obtain rfl : "/w/.tcf.toml" = last := Option.some.inj hlast
  exact absurd hsame (by decide +kernel)

end Config

end BrokerClient
