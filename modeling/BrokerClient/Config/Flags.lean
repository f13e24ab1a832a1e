import BrokerClient.Config.Layers
import BrokerClient.Number.Decimal
import BrokerClient.Options.Parser

/-!
# Settings in Flags

The flags that give settings, and one more that names a configuration file.

## Main definitions

* `Config.Flags`: What the flags say.
* `Config.Flags.grammar`: The flags.
* `Config.Flags.parse`: Reads them.
-/

namespace BrokerClient

namespace Config

/-- What the flags of an invocation say: some settings, and perhaps the path of
    a configuration file. -/
structure Flags where
  settings : Layer
  filePath : Option Path

namespace Flags

open Options (Fault Grammar Matches requireText)

/-- Nothing. -/
def none : Flags := ⟨[], Option.none⟩

/-- The value must be a text that can be read. -/
def requireReading {α : Type} (read? : String → Option α) (value : OsText) : Option Fault :=
  match value.text? with
  | some text => if (read? text).isSome then Option.none else some .invalid
  | Option.none => some .notText

/-- The value must not be empty. -/
def requirePath (value : OsText) : Option Fault :=
  if value.isEmpty then some .missing else Option.none

/-- The number of jobs that a text says. -/
def readJobs? (text : String) : Option Nat := do
  let (negative, digits) := Decimal.readSign text.toList
  let n ← Digits.number? 10 digits
  if n ≤ makeJobsLimit && (!negative || n = 0) then some n else Option.none

/-- The server that a text describes. -/
def readServer? (text : String) : Option Server := (Server.parse text).toOption

/-- The flags. -/
def grammar : Grammar where
  name := "tcf"
  about := ""
  options := [
    { long := "state-dir"
      short := some 's'
      role := .value "STATE_DIR"
      check := requireText
      about := "" },
    { long := "share-dir"
      short := some 'S'
      role := .value "SHARE_DIR"
      check := requireText
      about := "" },
    { long := "servers"
      short := some 'e'
      role := .value "SERVERS"
      repeatable := true
      check := requireReading readServer?
      about := "" },
    { long := "log-filter"
      short := some 'l'
      role := .value "LOG_FILTER"
      check := requireText
      about := "" },
    { long := "log-format"
      short := some 'L'
      role := .value "LOG_FORMAT"
      check := requireReading Log.Format.parse?
      about := "" },
    { long := "make-jobs"
      short := some 'm'
      role := .value "MAKE_JOBS"
      check := requireReading readJobs?
      about := "" },
    { long := "make-program"
      short := some 'M'
      role := .value "MAKE_PROGRAM"
      check := requireText
      about := "" },
    { long := "config-path"
      role := .value "CONFIG_PATH"
      check := requirePath
      about := "" },
    { long := "help"
      short := some 'h'
      role := .help
      about := "Print help" } ]

/-- The setting with a name, if a flag with a value gives it. -/
def setting (name : String) (value : Option Json) : Layer :=
  (value.map fun v => (name, v)).toList

/-- The settings that flags give. -/
def settingsOf (found : Matches) : Layer :=
  let text? (flag : String) : Option String := (found.textsOf flag).head?
  let servers := (found.textsOf "servers").filterMap readServer?
  KeyedList.ofList (
    setting "state_dir" ((text? "state-dir").map .string) ++
    setting "share_dir" ((text? "share-dir").map .string) ++
    setting "servers"
      (if servers.isEmpty then Option.none else some (.array (servers.map Server.toJson))) ++
    setting "log_filter" ((text? "log-filter").map .string) ++
    setting "log_format"
      (((text? "log-format").bind Log.Format.parse?).map fun f => .string f.name) ++
    setting "make_jobs" (((text? "make-jobs").bind readJobs?).map Json.nat) ++
    setting "make_program" ((text? "make-program").map .string))

/-- Reads the flags of an invocation, of which the first argument is the
    program. -/
def parse (arguments : List OsText) : Except Options.Error Flags := do
  let outcome ← grammar.read grammar.name (arguments.drop 1)
  let found ← grammar.finish grammar.name outcome.progress
  return ⟨settingsOf found, (found.valuesOf "config-path").head?⟩

end Flags

end Config

end BrokerClient
