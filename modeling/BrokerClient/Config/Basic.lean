import BrokerClient.Log.Format
import BrokerClient.StateDirectory

/-!
# Configuration

Everything about an invocation that does not depend on the command: where state
is kept, which servers there are, how events are logged, and how jobs are
limited.

## Main definitions

* `Config`: The settings.
* `Config.jobs`: The job limit, which is never zero.
* `Config.stateDirectory`: The directory that keeps state.
-/

namespace BrokerClient

/-- The settings of an invocation. -/
structure Config where
  stateDir : String
  shareDir : String
  servers : List Server
  logFilter : String
  logFormat : Log.Format
  makeJobs : Nat
  makeProgram : String
  deriving DecidableEq, Repr

namespace Config

/-- The job limit. -/
def jobs (c : Config) : Nat := max c.makeJobs 1

/-- The directory that keeps state. -/
def stateDirectory (c : Config) : StateDirectory := ⟨c.stateDir⟩

theorem one_le_jobs (c : Config) : 1 ≤ c.jobs := Nat.le_max_right _ _

end Config

end BrokerClient
