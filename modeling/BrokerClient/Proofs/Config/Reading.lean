import BrokerClient.Config.Loading
import BrokerClient.Proofs.Host.Alike

/-!
# What the Configuration Is Read From

Loading the configuration asks for the variables that hold settings, and for a few
that say where directories are. The report of configuration files asks for three
of them. On machines that differ in other variables only, both find the same.

## Main definitions

* `Config.asksFor`: The variables that loading asks for.
* `Discovery.asksFor`: Those that the report of configuration files asks for.

## Theorems

* `Variables.settings_of_restrict`: The settings are those of the variables that hold settings.
* `Config.load_of_alike`: The configuration is the same on machines that look alike.
* `Discovery.files_of_alike`: So is the report of configuration files.
-/

namespace BrokerClient

open Machine (Alike)

variable {asked : OsText → Bool} {m m' : Machine}

/-! ## Directories -/

namespace Directories

theorem home?_of_alike (h : m.Alike asked m') (hasked : asked "HOME" = true) :
    home? m' = home? m := by
  unfold home?
  rw [h.nonEmpty? hasked, h.accountHome]

theorem named?_of_alike (h : m.Alike asked m') (hhome : asked "HOME" = true) {name : String}
    (hasked : asked name = true) (place : String) : named? m' name place = named? m name place := by
  unfold named? absolute?
  rw [h.get? hasked, home?_of_alike h hhome]

end Directories

/-! ## The report of configuration files -/

namespace Discovery

/-- The variables that the report of configuration files asks for. -/
def asksFor (name : OsText) : Bool :=
  (["HOME", "XDG_CONFIG_HOME", pathVariable] : List OsText).contains name

/-- The report of configuration files is the same on machines that look alike. -/
theorem files_of_alike (h : m.Alike asksFor m') (arguments : List OsText) :
    files m' arguments = files m arguments := by
  unfold files candidates sources configPlace? homePlace? workPlace variablePlace?
    Directories.config?
  rw [Directories.named?_of_alike h (by decide) (by decide),
    Directories.home?_of_alike h (by decide), h.nonEmpty? (by decide), h.files, h.workDirectory]

end Discovery

/-! ## Settings in variables -/

namespace Variables

/-- Whether a variable holds a setting. -/
def isSetting (name : OsText) : Bool := (path? name).isSome

/-- The settings with those of one more variable. -/
def addSetting (settings : List (String × Json)) (v : OsText × OsText) : List (String × Json) :=
  match path? v.1 with
  | some (key, path) => Json.overlayFields [(key, Json.nest path (value v.2.shownChars))] settings
  | none => settings

theorem settings_eq_foldl (e : Environment) :
    settings e = (e.restrict isSetting).foldl addSetting [] := by
  -- A variable that holds no setting adds none, so it may as well be left out before.
  unfold Environment.restrict settings
  rw [List.foldl_filter]
  refine congrArg (List.foldl · [] e.bindings) (funext fun settings => funext fun v => ?_)
  rcases v with ⟨name, text⟩
  unfold isSetting addSetting
  simp only
  cases path? name <;> rfl

/-- The settings are those of the variables that hold settings. -/
theorem settings_of_restrict {e e' : Environment}
    (h : e'.restrict isSetting = e.restrict isSetting) : settings e' = settings e := by
  rw [settings_eq_foldl, settings_eq_foldl, h]

end Variables

/-! ## The configuration -/

namespace Config

/-- The variables that say where directories are. -/
def directoryVariables : List OsText :=
  ["HOME", "XDG_CONFIG_HOME", "XDG_CONFIG_DIRS", "XDG_STATE_HOME", "TMPDIR"]

/-- The variables that loading the configuration asks for. -/
def asksFor (name : OsText) : Bool :=
  Variables.isSetting name || directoryVariables.contains name

theorem asksFor_of_isSetting (name : OsText) (h : Variables.isSetting name = true) :
    asksFor name = true := by
  unfold asksFor
  rw [h, Bool.true_or]

theorem asksFor_pathVariable : asksFor Discovery.pathVariable = true :=
  asksFor_of_isSetting _ (by decide +kernel)

/-- The report of configuration files asks for nothing else. -/
theorem asksFor_of_discovery (name : OsText) (h : Discovery.asksFor name = true) :
    asksFor name = true := by
  unfold Discovery.asksFor at h
  simp only [List.contains_cons, List.contains_nil, Bool.or_false, Bool.or_eq_true, beq_iff_eq] at h
  rcases h with rfl | rfl | rfl
  · decide +kernel
  · decide +kernel
  · exact asksFor_pathVariable

theorem defaults_of_alike (h : m.Alike asksFor m') : defaults m' = defaults m := by
  unfold defaults defaultStateDir defaultMakeJobs Directories.state? Directories.temporary
  rw [Directories.named?_of_alike h (by decide +kernel) (by decide +kernel),
    Directories.home?_of_alike h (by decide +kernel), h.get? (by decide +kernel), h.processors]

theorem candidates_of_alike (h : m.Alike asksFor m') : candidates m' = candidates m := by
  unfold candidates systemDirectories
  rw [h.nonEmpty? asksFor_pathVariable, h.get? (by decide +kernel), h.get? (by decide +kernel),
    h.get? (by decide +kernel), h.workDirectory]

theorem readLayersFrom_of_alike (h : m.Alike asked m') (steps : Nat) (before : List Path)
    (p : Path) : readLayersFrom m' steps before p = readLayersFrom m steps before p := by
  induction steps generalizing before p with
  | zero => rfl
  | succ steps ih =>
    have hresolved : ∀ p, resolved m' p = resolved m p := by
      intro p
      unfold resolved
      rw [h.files, h.workDirectory]
    rw [readLayersFrom, readLayersFrom, h.files, h.workDirectory]
    simp only [hresolved, ih]

theorem readLayers_of_alike (h : m.Alike asked m') (p : Path) :
    readLayers m' p = readLayers m p := by
  unfold readLayers
  rw [readLayersFrom_of_alike h, h.files]

theorem loadFirst_of_alike (h : m.Alike asked m') (places : List Path) :
    loadFirst m' places = loadFirst m places := by
  induction places with
  | nil => rfl
  | cons p places ih => rw [loadFirst, loadFirst, readLayers_of_alike h, ih]

theorem chooseFile_of_alike (h : m.Alike asksFor m') (named : Option Path) :
    chooseFile m' named = chooseFile m named := by
  unfold chooseFile loadNamed
  simp only [candidates_of_alike h, loadFirst_of_alike h, readLayers_of_alike h]

/-- The configuration, or the faults, are the same on machines that look alike. -/
theorem load_of_alike (h : m.Alike asksFor m') (arguments : List OsText) :
    load m' arguments = load m arguments := by
  -- The flags are in the arguments; the other three layers come from the machine.
  unfold load allLayers
  simp only [chooseFile_of_alike h, defaults_of_alike h,
    Variables.settings_of_restrict (Environment.restrict_mono asksFor_of_isSetting h.environment)]

end Config

end BrokerClient
