import BrokerClient.CommandLine.ConfigArguments
import BrokerClient.Proofs.Config.Arguments

/-!
# Spellings of Flags

A flag of the configuration and its value are two arguments, or one argument with an equals
sign between them. The report of configuration files knows both spellings of the flag that
names a file, but it does not treat them alike. A value of its own is taken as it is, and one
behind an equals sign as it is shown, where broken bytes are replaced. So the spellings mean
the same path exactly if the path is a text.

Other flags are passed over in both spellings, and so are their values: none of them begins
like the flag that names a file (`Discovery.ne_longForm`).

## Main definitions

* `Discovery.Given`: A flag of the configuration with a value.
* `Discovery.written`: The arguments for flags, each in one of the two spellings.
* `Discovery.filePaths`: The values of the flags that name files.

## Theorems

* `Discovery.argumentPaths_written`: What the report finds in such arguments.
* `Discovery.spellings_agree_iff`: When two spellings mean the same paths.
* `Discovery.spellings_differ`: A path that is no text.
-/

namespace BrokerClient

open Options (longForm)

namespace Discovery

open Config.Flags (fileSpec)

/-- A flag of the configuration with a value that does not begin with a hyphen. -/
structure Given where
  flag : String
  value : OsText
  isFlag : flag ∈ ConfigArguments.flags
  isPlain : value.bytes.head? ≠ some 0x2D

/-- Whether a flag names a file. -/
def Given.namesFile (g : Given) : Bool := g.flag = pathFlag

/-- The arguments for a flag and its value: one with an equals sign, or two. -/
def Given.write (g : Given) (inline : Bool) : List OsText :=
  if inline then [OsText.ofString g.flag ++ OsText.ofString "=" ++ g.value]
  else [OsText.ofString g.flag, g.value]

/-- The path that the report takes a value for. -/
def Given.reported (g : Given) (inline : Bool) : Path :=
  if inline then OsText.ofChars g.value.shownChars else g.value

/-- The arguments for flags, given the places of those that are to be one argument. -/
def written (inline : Nat → Bool) (given : List Given) : List OsText :=
  given.zipIdx.flatMap fun g => g.1.write (inline g.2)

/-- The values of the flags that name files. -/
def filePaths (given : List Given) : List Path := (given.filter Given.namesFile).map Given.value

/-! ## Flags that are passed over -/

/-- The flag that names a file is told by its first bytes. -/
theorem take_longForm (inline : Option OsText) :
    (longForm fileSpec inline).bytes.take 3 = [0x2D, 0x2D, 0x63] := by
  cases inline <;> rfl

theorem ne_longForm {argument : OsText} (h : argument.bytes.take 3 ≠ [0x2D, 0x2D, 0x63])
    (inline : Option OsText) : argument ≠ longForm fileSpec inline := by
  rintro rfl
  exact h (take_longForm inline)

/-- No other flag begins like it. -/
theorem take_of_mem_flags {flag : String} (h : flag ∈ ConfigArguments.flags)
    (hne : flag ≠ pathFlag) (behind : List UInt8) :
    ((OsText.ofString flag).bytes ++ behind).take 3 ≠ [0x2D, 0x2D, 0x63] := by
  have hall : ∀ flag ∈ ConfigArguments.flags, flag ≠ pathFlag →
      3 ≤ (OsText.ofString flag).bytes.length ∧
        (OsText.ofString flag).bytes.take 3 ≠ [0x2D, 0x2D, 0x63] := by decide +kernel
  rcases hall flag h hne with ⟨hlength, htake⟩
  rw [List.take_append_of_le_length hlength]
  exact htake

namespace Given

variable {g : Given}

theorem take_value (g : Given) : g.value.bytes.take 3 ≠ [0x2D, 0x2D, 0x63] := by
  intro h
  refine g.isPlain ?_
  cases hbytes : g.value.bytes with
  | nil =>
    rw [hbytes] at h
    cases h
  | cons b bytes =>
    rw [hbytes] at h
    rw [List.head?_cons, (List.cons.inj h).1]

theorem longForm_of_namesFile (h : g.namesFile = true) (inline : Bool) :
    g.write inline = if inline then [longForm fileSpec (some g.value)]
      else [longForm fileSpec none, g.value] := by
  unfold write
  rw [of_decide_eq_true h]
  cases inline <;> rfl

/-- The report finds the value of the flag that names a file, and nothing in other flags. -/
theorem flagPaths_write_append (g : Given) (inline : Bool) (rest : List OsText) :
    flagPaths (g.write inline ++ rest) =
      (if g.namesFile then [g.reported inline] else []) ++ flagPaths rest := by
  cases hnames : g.namesFile with
  | true =>
    rw [longForm_of_namesFile hnames]
    cases inline with
    | true => exact flagPaths_longForm_some g.value rest
    | false => exact flagPaths_longForm_none (g.value :: rest)
  | false =>
    have hflag := take_of_mem_flags g.isFlag (of_decide_eq_false hnames)
    cases inline with
    | true =>
      refine flagPaths_cons (ne_longForm ?_) rest
      rw [OsText.bytes_append, OsText.bytes_append, List.append_assoc]
      exact hflag _
    | false =>
      have halone := hflag []
      rw [List.append_nil] at halone
      exact (flagPaths_cons (ne_longForm halone) (g.value :: rest)).trans
        (flagPaths_cons (ne_longForm g.take_value) rest)

/-- Both spellings mean the same path exactly if it is a text. -/
theorem reported_eq_iff {inline inline' : Bool} (h : inline ≠ inline') :
    g.reported inline = g.reported inline' ↔ g.value.text?.isSome = true := by
  have hshown : OsText.ofChars g.value.shownChars = g.value ↔ g.value.text?.isSome = true := by
    refine ⟨fun heq => ?_, OsText.ofChars_shownChars⟩
    rw [← heq, ← String.toList_ofList (l := g.value.shownChars)]
    exact congrArg Option.isSome (OsText.text?_ofString _)
  unfold reported
  cases inline with
  | true =>
    cases inline' with
    | true => exact absurd rfl h
    | false => exact hshown
  | false =>
    cases inline' with
    | true => exact eq_comm.trans hshown
    | false => exact absurd rfl h

end Given

/-! ## Both spellings -/

/-- In flags with values the report finds the values of those that name files, in their
    order, each as its spelling gives it. -/
theorem argumentPaths_written (program : OsText) (inline : Nat → Bool) (given : List Given) :
    argumentPaths (program :: written inline given) =
      (given.zipIdx.filter fun g => g.1.namesFile).map fun g => g.1.reported (inline g.2) := by
  change flagPaths (written inline given) = _
  unfold written
  induction given.zipIdx with
  | nil => rfl
  | cons g places ih =>
    rw [List.flatMap_cons, Given.flagPaths_write_append, ih, List.filter_cons]
    split <;> rfl

/-- Values of their own are taken as they are. -/
theorem argumentPaths_written_apart (program : OsText) (given : List Given) :
    argumentPaths (program :: written (fun _ => false) given) = filePaths given := by
  have hfilter := List.filter_map (f := Prod.fst) (p := Given.namesFile) (l := given.zipIdx)
  rw [List.zipIdx_map_fst] at hfilter
  unfold filePaths
  rw [argumentPaths_written, hfilter, List.map_map]
  rfl

variable {inline inline' : Nat → Bool} {given : List Given}

/-- Two spellings mean the same paths exactly if those that they write differently are texts. -/
theorem argumentPaths_written_eq_iff (program : OsText) :
    argumentPaths (program :: written inline given) =
        argumentPaths (program :: written inline' given) ↔
      ∀ place g, given[place]? = some g → g.namesFile = true → inline place ≠ inline' place →
        g.value.text?.isSome = true := by
  rw [argumentPaths_written, argumentPaths_written, List.map_inj_left]
  simp only [List.mem_filter, Prod.forall, List.mem_zipIdx_iff_getElem?]
  constructor
  · exact fun h place g hg hnames hne => (g.reported_eq_iff hne).mp (h g place ⟨hg, hnames⟩)
  · rintro h g place ⟨hg, hnames⟩
    by_cases heq : inline place = inline' place
    · rw [heq]
    · exact (g.reported_eq_iff heq).mpr (h place g hg hnames heq)

/-- When arguments mean the values of the flags that name files, and when two spellings of the
    same flags mean the same paths. If they do, the report is the same on every machine. -/
theorem spellings_agree_iff (program : OsText) (given : List Given) (inline inline' : Nat → Bool) :
    (argumentPaths (program :: written inline given) = filePaths given ↔
      ∀ place g, given[place]? = some g → g.namesFile = true → inline place = true →
        g.value.text?.isSome = true) ∧
    (argumentPaths (program :: written inline given) =
        argumentPaths (program :: written inline' given) ↔
      ∀ place g, given[place]? = some g → g.namesFile = true → inline place ≠ inline' place →
        g.value.text?.isSome = true) ∧
    ((∀ place g, given[place]? = some g → g.namesFile = true → inline place ≠ inline' place →
        g.value.text?.isSome = true) →
      ∀ m, files m (program :: written inline given) =
        files m (program :: written inline' given)) := by
  refine ⟨?_, argumentPaths_written_eq_iff program, fun h m => ?_⟩
  · rw [← argumentPaths_written_apart program given, argumentPaths_written_eq_iff]
    simp only [ne_eq, Bool.not_eq_false]
  · unfold files candidates sources
    rw [(argumentPaths_written_eq_iff program).mpr h]

/-- A path that is no text is reported behind the flag, but not behind an equals sign. -/
theorem spellings_differ :
    let path : Path := ⟨[0x2F, 0xFF]⟩
    let g : Given := ⟨"--config-path", path, by decide, by decide⟩
    let m : Machine := { (default : Machine) with files := ⟨[([⟨[0xFF]⟩], .file [] 0o644)]⟩ }
    argumentPaths ("tcf" :: written (fun _ => false) [g]) = [path] ∧
      argumentPaths ("tcf" :: written (fun _ => true) [g]) = ["/\uFFFD"] ∧
      files m ("tcf" :: written (fun _ => false) [g]) = [path] ∧
      files m ("tcf" :: written (fun _ => true) [g]) = [] := by
  decide +kernel

end Discovery

end BrokerClient
