import BrokerClient.Log.Filter
import BrokerClient.Log.Format

/-!
# Loggers

What decides which events are printed and how: a filter and a format. A process
has at most one logger, and the first one stays.

## Main definitions

* `Log.Logger`: A filter and a format.
* `Log.Logger.create`: The logger for a filter text and a format.
-/

namespace BrokerClient

namespace Log

/-- What decides which events are printed and how. -/
structure Logger where
  directives : List Filter.Directive
  format : Format
  deriving DecidableEq, Repr

namespace Logger

/-- The filter that debugging stands for. -/
def debugFilter : String := "debug"

/-- The logger for a filter text and a format. Debugging overrides the
    filter. -/
def create (filterText : String) (format : Format) (debug : Bool) :
    Except Filter.Flaw Logger := do
  return ⟨← Filter.parse (if debug then debugFilter else filterText), format⟩

end Logger

end Log

end BrokerClient
