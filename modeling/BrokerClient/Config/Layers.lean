import BrokerClient.Config.Basic
import BrokerClient.Json.Overlay

/-!
# Layers of Settings

Settings come from several sources, each of which gives some of them. A source
is a layer, an object with the settings it gives, and layers lie over each
other. A setting has the value of the uppermost layer that gives it, except for
servers: those of all layers count, the ones of lower layers first, and a layer
that gives `null` forgets the ones below it.

## Main definitions

* `Config.Layer`: The settings of a source.
* `Config.ofLayers?`: The configuration that layers make.
* `Config.toLayer`: All settings of a configuration as a layer.
-/

namespace BrokerClient

namespace Config

/-- The settings of a source by their names. -/
abbrev Layer := List (String × Json)

/-- The values that layers give to a setting, from the lowest one up. -/
def valuesOf (name : String) (layers : List Layer) : List Json :=
  layers.filterMap (KeyedList.lookup name)

/-- The value of a setting under layers from the lowest one up. -/
def settingOf (name : String) (layers : List Layer) : Json :=
  (valuesOf name layers).foldl (fun below value => Json.overlay value below) .null

/-- The servers that were given so far and one more value for them. A value
    that is no list stands for a list of itself. -/
def addServers (servers : List Json) : Json → List Json
  | .null => []
  | .array items => servers ++ items
  | value => servers ++ [value]

/-- The servers of all layers from the lowest one up. -/
def serversOf (layers : List Layer) : List Json :=
  (valuesOf "servers" layers).foldl addServers []

/-- The log format that a document names: a text, or an object whose only field
    is `null`. -/
def logFormat? : Json → Option Log.Format
  | .string name => Log.Format.ofName? name
  | .object [(name, .null)] => Log.Format.ofName? name
  | _ => none

/-- The largest number of jobs. -/
def makeJobsLimit : Nat := Nat.pow 2 32 - 1

/-- The number of jobs that a document says. -/
def makeJobs? : Json → Option Nat
  | .number (.integer n) => if 0 ≤ n && n ≤ makeJobsLimit then some n.toNat else none
  | _ => none

/-- The configuration that layers make, from the lowest one up, if every
    setting has a value of its kind. -/
def ofLayers? (layers : List Layer) : Option Config := do
  let setting (name : String) := settingOf name layers
  some {
    stateDir := ← (setting "state_dir").text?
    shareDir := ← (setting "share_dir").text?
    servers := ← (serversOf layers).mapM Server.ofJson?
    logFilter := ← (setting "log_filter").text?
    logFormat := ← logFormat? (setting "log_format")
    makeJobs := ← makeJobs? (setting "make_jobs")
    makeProgram := ← (setting "make_program").text? }

/-- All settings of a configuration as a layer. -/
def toLayer (c : Config) : Layer :=
  KeyedList.ofList [
    ("state_dir", .string c.stateDir),
    ("share_dir", .string c.shareDir),
    ("servers", .array (c.servers.map Server.toJson)),
    ("log_filter", .string c.logFilter),
    ("log_format", .string c.logFormat.name),
    ("make_jobs", .nat c.makeJobs),
    ("make_program", .string c.makeProgram)]

end Config

end BrokerClient
