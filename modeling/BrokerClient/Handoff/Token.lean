import BrokerClient.Files.Path

/-!
# Handoff Tokens

A command that runs under a job limit is started twice: the first process
hands its command line over to make in a file, and make starts the second one.
The token says which of the two a process is. It travels in the flags.

## Main definitions

* `HandoffToken`: Which process this is.
* `HandoffToken.ofFlags`: What the flags say.
-/

namespace BrokerClient

/-- Whether a process has still to hand over, may run without a job limit, or
    was started by the handoff file at a path. -/
inductive HandoffToken where
  | unset
  | disabled
  | handoff (path : Path)
  deriving DecidableEq, Repr

namespace HandoffToken

/-- What the flags say, of which the one that disables the handoff counts more.
    An empty path is no handoff file. -/
def ofFlags (path : Option String) (disabled : Bool) : HandoffToken :=
  if disabled then .disabled
  else
    match path with
    | some path => if path.isEmpty then .unset else .handoff path
    | none => .unset

end HandoffToken

end BrokerClient
