import BrokerClient.Config.Discovery
import BrokerClient.Config.Flags
import BrokerClient.Proofs.Options.Reader
import Mathlib.Data.List.Forall2

/-!
# Configuration Files in Arguments

The paths of configuration files are taken from the arguments twice. The reader of flags
finds the path by the grammar, together with all other flags. The report of configuration
files only looks for the name of the flag, and knows nothing of the other ones. Where the
reader accepts the arguments, both find the same (`Discovery.argumentPaths_of_parse`), except
that a path behind an equals sign is reported as it is shown, with replacement characters
for what is no text.

The proof follows the reader from argument to argument. What the report would find behind
the current argument depends on one thing only, which is whether the reader waits for the
path itself; the value of another flag does not look like the flag. So the paths settled so
far and those that the report finds in the rest make up the paths settled in the end
(`Config.Flags.scan_of_reads`).

## Main definitions

* `Config.Flags.fileSpec`: The flag that names a file.
* `Config.Flags.known`: The paths that the reader knows so far.
* `Discovery.scan`: The paths in arguments, the first of which may be the value of the flag.
* `Discovery.Spelled`: A path as it may be reported.

## Theorems

* `Config.Flags.scan_of_reads`: What the reader finds in a run.
* `Discovery.argumentPaths_of_parse`: What the report finds in arguments that are accepted.
-/

namespace BrokerClient

open Options (Grammar Matches Progress Spec longForm)

/-! ## The report -/

namespace Discovery

/-- A path as it may be reported: as it is, or as it is shown. -/
def Spelled (reported path : Path) : Prop :=
  reported = path ∨ reported = OsText.ofChars path.shownChars

/-- The paths in arguments, the first of which is the value of the flag if the flag stands
    in front of them. -/
def scan : Bool → List OsText → List Path
  | false, arguments => flagPaths arguments
  | true, value :: rest => value :: flagPaths rest
  | true, [] => []

end Discovery

namespace Config

namespace Flags

/-- The flag that names a file. -/
def fileSpec : Spec where
  long := "config-path"
  role := .value "CONFIG_PATH"
  check := requirePath
  about := ""

theorem long?_fileSpec : grammar.long? fileSpec.long.toList = some fileSpec := rfl

theorem isPlain_grammar : grammar.IsPlain := ⟨rfl, by decide⟩

/-- No other flag has its name. -/
theorem eq_fileSpec {s : Spec} (hs : s ∈ grammar.options) (h : s.long = fileSpec.long) :
    s = fileSpec := by
  simp only [grammar, List.mem_cons, List.not_mem_nil, or_false] at hs
  rcases hs with rfl | rfl | rfl | rfl | rfl | rfl | rfl | rfl | rfl
  all_goals first | rfl | exact absurd h (by decide)

end Flags

end Config

namespace Discovery

open Config.Flags (fileSpec)

/-- The flag alone is followed by its value. -/
theorem flagPaths_longForm_none (rest : List OsText) :
    flagPaths (longForm fileSpec none :: rest) = scan true rest := by
  have hshown : (longForm fileSpec none).shownChars = pathFlag.toList := by decide +kernel
  cases rest with
  | nil => rw [flagPaths.eq_def]; simp only [hshown, if_true]; rfl
  | cons value rest => rw [flagPaths.eq_def]; simp only [hshown, if_true]; rfl

/-- Its value may stand behind an equals sign. -/
theorem flagPaths_longForm_some (value : OsText) (rest : List OsText) :
    flagPaths (longForm fileSpec (some value) :: rest) =
      OsText.ofChars value.shownChars :: flagPaths rest := by
  have hshown : (longForm fileSpec (some value)).shownChars =
      (pathFlag.toList ++ ['=']) ++ value.shownChars :=
    OsText.shownChars_ofString_append "--config-path=" value
  have hne : (pathFlag.toList ++ ['=']) ++ value.shownChars ≠ pathFlag.toList := by
    intro h
    rw [List.append_assoc, List.append_right_eq_self] at h
    cases h
  have hprefix : (pathFlag.toList ++ ['=']).isPrefixOf
      ((pathFlag.toList ++ ['=']) ++ value.shownChars) = true :=
    List.isPrefixOf_iff_prefix.mpr (List.prefix_append _ _)
  rw [flagPaths.eq_def]
  simp only
  rw [hshown, if_neg hne, if_pos hprefix, List.drop_left]

/-- All other arguments are passed over. -/
theorem flagPaths_cons {argument : OsText} (h : ∀ inline, argument ≠ longForm fileSpec inline)
    (rest : List OsText) : flagPaths (argument :: rest) = flagPaths rest := by
  have hne : argument.shownChars ≠ pathFlag.toList := by
    intro hshown
    rw [OsText.eq_ofString_of_shownChars (by decide) hshown] at h
    exact h none rfl
  have hprefix : (pathFlag.toList ++ ['=']).isPrefixOf argument.shownChars ≠ true := by
    intro hshown
    rcases List.isPrefixOf_iff_prefix.mp hshown with ⟨value, hvalue⟩
    rcases OsText.exists_of_shownChars_eq_append (s := "--config-path=") (by decide) hvalue.symm
      with ⟨u, rfl, -⟩
    exact h (some u) rfl
  rw [flagPaths.eq_def]
  simp only
  rw [if_neg hne, if_neg hprefix]

end Discovery

/-! ## The reader -/

namespace Config

namespace Flags

open Discovery (Spelled scan flagPaths argumentPaths)
open Options.Grammar (Reads IsPlain)

/-- The paths that were settled. -/
def settledPaths (m : Matches) : List OsText := m.valuesOf fileSpec.long

/-- The paths that the reader knows so far. -/
def known (p : Progress) : List OsText :=
  match p.pending with
  | .option s value =>
    if s.long = fileSpec.long then settledPaths p.settled ++ [value] else settledPaths p.settled
  | _ => settledPaths p.settled

/-- Whether the reader waits for a path. -/
def waits (p : Progress) : Bool :=
  match p.pending with
  | .awaiting s => s.long = fileSpec.long
  | _ => false

variable {calledAs : String} {p p' q : Progress} {m m' : Matches} {s : Spec}

theorem settledPaths_append (m : Matches) (long : String) (values : List OsText) :
    settledPaths { m with found := m.found ++ [(long, values)] } =
      if long = fileSpec.long then settledPaths m ++ values else settledPaths m := by
  unfold settledPaths Matches.valuesOf
  rw [List.filter_append, List.flatMap_append]
  split
  · next h => simp [h]
  · next h => simp [h]

theorem settledPaths_settleOption {values : List OsText}
    (h : grammar.settleOption calledAs m s values = .ok m') :
    settledPaths m' =
      if s.long = fileSpec.long then settledPaths m ++ values else settledPaths m := by
  rw [(Grammar.settleOption_eq_ok_iff.mp h).2.2.2]
  exact settledPaths_append m s.long values

/-- What settles in the end is what is known. -/
theorem settledPaths_settle (h : grammar.settle calledAs p = .ok m) : settledPaths m = known p := by
  unfold Grammar.settle at h
  unfold known
  split at h
  · next hpending => rw [hpending, ← Except.ok.inj h]
  · cases h
  · next s value hpending =>
    rw [hpending]
    exact settledPaths_settleOption h
  · next values hpending =>
    rw [hpending, ← Except.ok.inj h]
    rfl

theorem waits_of_settle (h : grammar.settle calledAs p = .ok m) : waits p = false := by
  unfold waits
  split
  · next s hs =>
    rw [Grammar.settle_awaiting hs] at h
    cases h
  · rfl

/-- What an argument adds to the paths that the reader knows is what the report finds in it,
    and what is left for the report is what it finds behind it. -/
def Adds (p : Progress) (argument : OsText) (p' : Progress) : Prop :=
  p'.trailing = p.trailing ∧ ∃ reported paths, known p' = known p ++ paths ∧
    List.Forall₂ Spelled reported paths ∧
    ∀ rest, scan (waits p) (argument :: rest) = reported ++ scan (waits p') rest

/-- The flag adds its value, or makes the reader wait for one. -/
theorem adds_fileSpec {inline : Option OsText}
    (h : grammar.enter calledAs p fileSpec inline = .ok p') :
    Adds p (longForm fileSpec inline) p' := by
  rcases Grammar.exists_settle_of_enter h with ⟨m, hm⟩
  have hknown := settledPaths_settle hm
  have hwaits := waits_of_settle hm
  unfold Adds
  rw [hwaits]
  cases inline with
  | none =>
    rw [Grammar.enter_waits hm rfl] at h
    rw [← Except.ok.inj h]
    refine ⟨rfl, [], [], ?_, .nil, fun rest => Discovery.flagPaths_longForm_none rest⟩
    rw [← hknown, List.append_nil]
    rfl
  | some value =>
    rw [Grammar.enter_settles hm rfl] at h
    rcases exists_of_map_eq_ok h with ⟨m', hm', rfl⟩
    refine ⟨rfl, [OsText.ofChars value.shownChars], [value], ?_, .cons (.inr rfl) .nil,
      fun rest => Discovery.flagPaths_longForm_some value rest⟩
    rw [← hknown]
    exact settledPaths_settleOption hm'

/-- Another flag adds nothing, and what stands in its place is passed over. -/
theorem adds_other {argument : OsText} {inline : Option OsText}
    (hargument : ∀ inline, argument ≠ longForm fileSpec inline) (hs : s.long ≠ fileSpec.long)
    (h : grammar.enter calledAs p s inline = .ok p') : Adds p argument p' := by
  rcases Grammar.exists_settle_of_enter h with ⟨m, hm⟩
  have hknown := settledPaths_settle hm
  have hpassed : ∀ rest, scan (waits p) (argument :: rest) = flagPaths rest := by
    rw [waits_of_settle hm]
    exact Discovery.flagPaths_cons hargument
  cases hvalues : Grammar.valuesHere s inline with
  | none =>
    rw [Grammar.enter_waits hm hvalues] at h
    rw [← Except.ok.inj h]
    have hwaits : waits ⟨m, .awaiting s, p.trailing⟩ = false := decide_eq_false hs
    refine ⟨rfl, [], [], ?_, .nil, fun rest => ?_⟩
    · rw [← hknown, List.append_nil]
      rfl
    · rw [hpassed, hwaits]
      rfl
  | some values =>
    rw [Grammar.enter_settles hm hvalues] at h
    rcases exists_of_map_eq_ok h with ⟨m', hm', rfl⟩
    refine ⟨rfl, [], [], ?_, .nil, hpassed⟩
    rw [← hknown, List.append_nil]
    exact (settledPaths_settleOption hm').trans (if_neg hs)

/-- A value adds a path if it is the one that the flag waits for. -/
theorem adds_value {argument : OsText}
    (hargument : ∀ inline, argument ≠ longForm fileSpec inline) (hs : p.pending = .awaiting s) :
    Adds p argument { p with pending := .option s argument } := by
  have hknown : known p = settledPaths p.settled := by
    unfold known
    rw [hs]
  have hwaits : waits p = decide (s.long = fileSpec.long) := by
    unfold waits
    rw [hs]
  unfold Adds
  rw [hknown, hwaits]
  by_cases hfile : s.long = fileSpec.long
  · rw [decide_eq_true hfile]
    exact ⟨rfl, [argument], [argument], if_pos hfile, .cons (.inl rfl) .nil, fun rest => rfl⟩
  · rw [decide_eq_false hfile]
    refine ⟨rfl, [], [], ?_, .nil, Discovery.flagPaths_cons hargument⟩
    exact (if_neg hfile).trans (List.append_nil _).symm

/-- Each step adds what the report finds. -/
theorem adds_of_step {argument : OsText} (ha : argument ≠ OsText.ofString "--")
    (ht : p.trailing = false) (h : grammar.step calledAs p argument = .ok p') :
    Adds p argument p' := by
  by_cases hform : ∃ inline, argument = longForm fileSpec inline
  · rcases hform with ⟨inline, rfl⟩
    rw [Grammar.step_longForm long?_fileSpec (by decide) (by decide) nofun ht] at h
    exact adds_fileSpec h
  · have hargument : ∀ inline, argument ≠ longForm fileSpec inline :=
      fun inline heq => hform ⟨inline, heq⟩
    rcases Grammar.step_cases isPlain_grammar ha h with
      ⟨s, inline, hmem, hlong, henter, -⟩ | ⟨s, hs, rfl, -⟩
    · refine adds_other hargument (fun heq => ?_) henter
      -- The flag has no letter, so it would have been given in its long form.
      obtain rfl := eq_fileSpec hmem heq
      exact hargument inline (hlong rfl)
    · exact adds_value hargument hs

/-- Where nothing is waited for and the report finds nothing, everything is known. -/
theorem scan_of_settle {arguments : List OsText} (h : grammar.settle calledAs p = .ok m)
    (hnone : flagPaths arguments = []) :
    ∃ paths, settledPaths m = known p ++ paths ∧
      List.Forall₂ Spelled (scan (waits p) arguments) paths := by
  refine ⟨[], ?_, ?_⟩
  · rw [settledPaths_settle h, List.append_nil]
  · rw [waits_of_settle h]
    rw [scan, hnone]
    exact .nil

/-- What the reader knows and what the report finds in the arguments to come make up what is
    settled in the end. -/
theorem scan_of_reads {arguments : List OsText}
    (h : Reads grammar calledAs p arguments q) (hsettle : grammar.settle calledAs q = .ok m)
    (ht : p.trailing = false) :
    ∃ paths, settledPaths m = known p ++ paths ∧
      List.Forall₂ Spelled (scan (waits p) arguments) paths := by
  induction h with
  | nil p => exact scan_of_settle hsettle rfl
  | @cons p p' q argument rest command step reads ih =>
    by_cases ha : argument = OsText.ofString "--"
    -- A double hyphen must be the last argument.
    · rw [ha, Grammar.step_doubleHyphen ht] at step
      rw [← Except.ok.inj step] at reads
      cases reads with
      | nil =>
        have hpending : grammar.settle calledAs p = .ok m := hsettle
        rw [ha]
        exact scan_of_settle hpending rfl
      | cons _ step _ => exact absurd step (Grammar.step_of_trailing isPlain_grammar rfl)
    · rcases adds_of_step ha ht step with ⟨htrailing, reported, added, hknown, hadded, hscan⟩
      rcases ih hsettle (htrailing.trans ht) with ⟨paths, hpaths, hspelled⟩
      refine ⟨added ++ paths, ?_, ?_⟩
      · rw [hpaths, hknown, List.append_assoc]
      · rw [hscan]
        exact List.rel_append hadded hspelled

/-! ## Only one path -/

/-- At most one path is settled, and what is pending is one of the flags. -/
structure Once (p : Progress) : Prop where
  settled : (settledPaths p.settled).length ≤ 1
  awaiting : ∀ s, p.pending = .awaiting s → s ∈ grammar.options
  option : ∀ s value, p.pending = .option s value → s ∈ grammar.options

/-- Nothing is pending when an option has been settled. -/
theorem once_of_nothing {trailing : Bool} (hm : (settledPaths m).length ≤ 1) :
    Once ⟨m, .nothing, trailing⟩ where
  settled := hm
  awaiting _ h := by cases h
  option _ _ h := by cases h

/-- The flag cannot be repeated. -/
theorem once_settleOption {values : List OsText} (hs : s ∈ grammar.options)
    (hm : (settledPaths m).length ≤ 1) (hvalues : values.length ≤ 1)
    (h : grammar.settleOption calledAs m s values = .ok m') :
    (settledPaths m').length ≤ 1 := by
  rw [settledPaths_settleOption h]
  split
  · next hfile =>
    obtain rfl := eq_fileSpec hs hfile
    have hhas : m.has fileSpec.long = false := by
      have hrepeated := (Grammar.settleOption_eq_ok_iff.mp h).2.1
      rwa [show fileSpec.repeatable = false from rfl, Bool.not_false, Bool.and_true] at hrepeated
    have hnone : settledPaths m = [] := by
      unfold settledPaths Matches.valuesOf
      rw [List.filter_eq_nil_iff.mpr (List.any_eq_false.mp hhas)]
      rfl
    rw [hnone]
    exact hvalues
  · exact hm

theorem once_settle (hp : Once p) (h : grammar.settle calledAs p = .ok m) :
    (settledPaths m).length ≤ 1 := by
  unfold Grammar.settle at h
  split at h
  · rw [← Except.ok.inj h]
    exact hp.settled
  · cases h
  · next s value hpending =>
    have hvalue : [value].length ≤ 1 := Nat.le_refl 1
    exact once_settleOption (hp.option s value hpending) hp.settled hvalue h
  · rw [← Except.ok.inj h]
    exact hp.settled

theorem length_valuesHere {inline : Option OsText} {values : List OsText}
    (h : Grammar.valuesHere s inline = some values) : values.length ≤ 1 := by
  unfold Grammar.valuesHere at h
  split at h
  · split at h
    · cases h
      exact Nat.le_refl 1
    · cases h
      exact Nat.le_refl 1
    · cases h
  · cases h
    exact Nat.zero_le 1

theorem once_enter {inline : Option OsText} (hp : Once p) (hs : s ∈ grammar.options)
    (h : grammar.enter calledAs p s inline = .ok p') : Once p' := by
  rcases Grammar.exists_settle_of_enter h with ⟨m, hm⟩
  cases hvalues : Grammar.valuesHere s inline with
  | none =>
    rw [Grammar.enter_waits hm hvalues] at h
    rw [← Except.ok.inj h]
    refine ⟨once_settle hp hm, fun s' hs' => ?_, fun s' value hs' => by cases hs'⟩
    cases hs'
    exact hs
  | some values =>
    rw [Grammar.enter_settles hm hvalues] at h
    rcases exists_of_map_eq_ok h with ⟨m', hm', rfl⟩
    exact once_of_nothing
      (once_settleOption hs (once_settle hp hm) (length_valuesHere hvalues) hm')

theorem once_step {argument : OsText} (hp : Once p)
    (h : grammar.step calledAs p argument = .ok p') :
    Once p' := by
  have ht : p.trailing = false :=
    Bool.eq_false_iff.mpr fun ht => Grammar.step_of_trailing isPlain_grammar ht h
  by_cases ha : argument = OsText.ofString "--"
  · rw [ha, Grammar.step_doubleHyphen ht] at h
    rw [← Except.ok.inj h]
    exact ⟨hp.settled, hp.awaiting, hp.option⟩
  · rcases Grammar.step_cases isPlain_grammar ha h with
      ⟨s, inline, hmem, -, henter, -⟩ | ⟨s, hs, rfl, -⟩
    · exact once_enter hp hmem henter
    · refine ⟨hp.settled, fun s' hs' => ?_, fun s' value hs' => ?_⟩
      · cases hs'
      · cases hs'
        exact hp.awaiting s hs

theorem once_reads {arguments : List OsText} (hp : Once p)
    (h : Reads grammar calledAs p arguments q) : Once q := by
  induction h with
  | nil p => exact hp
  | cons _ step _ ih => exact ih (once_step hp step)

end Flags

end Config

/-! ## Both -/

namespace Discovery

open Config (Flags)

/-- In arguments that are accepted the report finds the path that the reader finds, and no
    other one. -/
theorem argumentPaths_of_parse {arguments : List OsText} {flags : Flags}
    (h : Flags.parse arguments = .ok flags) :
    List.Forall₂ Spelled (argumentPaths arguments) flags.filePath.toList := by
  rcases exists_of_bind_eq_ok h with ⟨outcome, hread, h⟩
  rcases exists_of_bind_eq_ok h with ⟨found, hfinish, h⟩
  rcases exists_of_bind_eq_ok hfinish with ⟨m, hsettle, hfinish⟩
  rcases exists_of_bind_eq_ok hfinish with ⟨_, -, hfinish⟩
  obtain rfl : m = found := Except.ok.inj hfinish
  have hreads := Grammar.reads_of_commands_eq_nil rfl hread
  rcases Flags.scan_of_reads hreads hsettle rfl with ⟨paths, hpaths, hspelled⟩
  have hstart : (Flags.settledPaths .empty).length ≤ 1 := Nat.zero_le 1
  have honce := Flags.once_settle (Flags.once_reads (Flags.once_of_nothing hstart) hreads) hsettle
  have hfound : flags.filePath = paths.head? := by
    rw [← Except.ok.inj h]
    exact congrArg List.head? hpaths
  have hlength : paths.length ≤ 1 := by
    rw [hpaths] at honce
    exact honce
  rw [hfound]
  match paths, hlength with
  | [], _ => exact hspelled
  | [path], _ => exact hspelled

end Discovery

end BrokerClient
