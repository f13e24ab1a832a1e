import BrokerClient.Host.Machine

/-!
# Directories of a User

Where a user keeps configuration and state, by the variables that say so. A
variable that holds a relative path is ignored.

## Main definitions

* `Directories.home?`: The home directory.
* `Directories.config?`, `Directories.state?`: The directories below it or elsewhere.
* `Directories.temporary`: The directory for temporary files.
-/

namespace BrokerClient

namespace Directories

/-- The home directory: the variable, or the one of the account. -/
def home? (m : Machine) : Option Path :=
  (m.environment.nonEmpty? "HOME").orElse fun _ => m.accountHome

/-- The value of a variable that holds an absolute path. -/
def absolute? (m : Machine) (variableName : String) : Option Path :=
  (m.environment.get? variableName).filter Path.isAbsolute

/-- A directory by its variable, or else by its place below the home
    directory. -/
def named? (m : Machine) (variableName place : String) : Option Path :=
  (absolute? m variableName).orElse fun _ => (home? m).map fun home => Path.join home place

/-- The directory for configuration. -/
def config? (m : Machine) : Option Path := named? m "XDG_CONFIG_HOME" ".config"

/-- The directory for state. -/
def state? (m : Machine) : Option Path := named? m "XDG_STATE_HOME" ".local/state"

/-- The directory for temporary files. -/
def temporary (m : Machine) : Path := (m.environment.get? "TMPDIR").getD "/tmp"

end Directories

end BrokerClient
