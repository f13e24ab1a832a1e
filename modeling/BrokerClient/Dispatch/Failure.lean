import BrokerClient.Files.Errno
import BrokerClient.Unicode.Blank

/-!
# Command Failures

Why a command failed, in words. A failure has a class, a description and the
descriptions of what caused it. It is reported as one line, and if traces are
wanted, as further lines for its origin and for every cause.

## Main definitions

* `ResolveError`: A name leads to no target or server, or to several.
* `CommandError`: A failure.
* `CommandError.kind`, `CommandError.message`, `CommandError.causes`: Its parts.
* `describeFailure`: The lines of a report.
-/

namespace BrokerClient

/-- Why a name leads nowhere. -/
inductive ResolveError where
  | unknownTarget (target : String)
  | ambiguousTarget (target : String) (candidates : List String)
  | unknownServer (server : String)
  deriving DecidableEq, Repr

/-- The wording of an error. -/
def ResolveError.message : ResolveError → String
  | unknownTarget target => target ++ ": unknown target or server"
  | ambiguousTarget target candidates =>
    target ++ ": ambiguous target name, matches " ++ String.intercalate ", " candidates
  | unknownServer server => server ++ ": unknown server"

/-- Why a command failed. -/
inductive CommandError where
  | resolve (error : ResolveError)
  | launch (program : String) (source : IoError)
  | output (source : IoError)
  | serialise (reason : String)
  | mismatched (expected found : String)
  deriving DecidableEq, Repr

namespace CommandError

/-- The class of a failure. -/
def kind : CommandError → String
  | resolve _ => "resolve"
  | launch _ _ => "launch"
  | output _ => "output"
  | serialise _ => "serialise"
  | mismatched _ _ => "dispatch"

/-- The description of a failure. -/
def message : CommandError → String
  | resolve error => error.message
  | launch program source => "failed to launch '" ++ program ++ "': " ++ source.message
  | output source => "failed to write command output: " ++ source.message
  | serialise reason => "failed to serialise command output: " ++ reason
  | mismatched expected found =>
    "handler for '" ++ expected ++ "' cannot run '" ++ found ++ "'"

/-- The descriptions of the causes, each the cause of the one before it. -/
def causes : CommandError → List String
  | launch _ source | output source => source.message :: source.causes
  | serialise reason => [reason]
  | resolve _ | mismatched _ _ => []

end CommandError

/-- The line for a failure. A description of blanks is replaced by the
    class. -/
def summaryLine (kind description : String) : String :=
  if (Unicode.trim description.toList).isEmpty then
    "error: " ++ kind ++ " failed with no description"
  else "error: " ++ description

/-- The line for the command that failed. -/
def originLine (command kind : String) : String :=
  "  origin: command '" ++ command ++ "' (" ++ kind ++ ")"

/-- The line for a cause. -/
def causeLine (cause : String) : String := "  caused by: " ++ cause

/-- The lines of a report about a failure. -/
def describeFailure (command kind description : String) (causes : List String) (traces : Bool) :
    List String :=
  summaryLine kind description ::
    if traces then originLine command kind :: causes.map causeLine else []

/-- The lines of a report about an error of a command. -/
def CommandError.describe (e : CommandError) (command : String) (traces : Bool) : List String :=
  describeFailure command e.kind e.message e.causes traces

end BrokerClient
