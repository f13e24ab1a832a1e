import BrokerClient.Config.Basic
import BrokerClient.Config.Directories

/-!
# Default Settings

The settings of a machine on which nothing was configured. State goes below the
directory for state, or if its path is no text, below the home directory, or if
that is no text either, below the directory for temporary files.

## Main definitions

* `Config.defaults`: The settings.
-/

namespace BrokerClient

namespace Config

/-- The default log filter. -/
def defaultLogFilter : String := "warn"

/-- The default log format. -/
def defaultLogFormat : Log.Format := .compact

/-- The default program that limits jobs. -/
def defaultMakeProgram : String := "make"

/-- The default directory for shared files. -/
def defaultShareDir : String := "/usr/share/tcf"

/-- The default job limit: the number of processors. -/
def defaultMakeJobs (m : Machine) : Nat :=
  if 1 ≤ m.processors && m.processors < Nat.pow 2 32 then m.processors else 1

/-- A path below a directory, if the path of the directory is a text. -/
def below? (directory : Option Path) (name : String) : Option String :=
  directory.bind fun directory =>
    if directory.text?.isSome then (Path.join directory name).text? else none

/-- The default directory for state. -/
def defaultStateDir (m : Machine) : String :=
  ((below? (Directories.state? m) "tcf").orElse fun _ =>
    (below? (Directories.home? m) ".tcf").orElse fun _ =>
      below? (some (Directories.temporary m)) "tcf-state").getD "/tmp/tcf-state"

/-- The settings of a machine on which nothing was configured. -/
def defaults (m : Machine) : Config where
  stateDir := defaultStateDir m
  shareDir := defaultShareDir
  servers := []
  logFilter := defaultLogFilter
  logFormat := defaultLogFormat
  makeJobs := defaultMakeJobs m
  makeProgram := defaultMakeProgram

end Config

end BrokerClient
