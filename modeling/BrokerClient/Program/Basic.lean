import BrokerClient.Host.Machine

/-!
# Programs

Other programs, as far as this one has to do with them: it starts one and waits
for its end, or goes on as one. What the other program does is left open. Both
requests are actions on the machine, and every theorem about an invocation
holds for all such actions, or names what it asks of them.

## Main definitions

* `ExitStatus`: How a program has ended.
* `Launcher`: Starts a program and waits for its end.
* `Launcher.launch`: The same, with a record of the request.
* `Replacer`: Goes on as another program.
-/

namespace BrokerClient

/-- How a program has ended: by itself with a code, or by a signal. -/
inductive ExitStatus where
  | exited (code : Nat)
  | signalled (signal : Nat)
  deriving DecidableEq, Repr

/-- Starts a program with arguments and waits for its end. -/
abbrev Launcher := OsText → List OsText → Action (Except IoError ExitStatus)

/-- Takes note of a program and its arguments, starts it and waits for its
    end. -/
def Launcher.launch (launcher : Launcher) (program : OsText) (arguments : List OsText) :
    Action (Except IoError ExitStatus) := do
  modify fun m => { m with launches := m.launches ++ [program :: arguments] }
  launcher program arguments

/-- Goes on as another program, given with its arguments. The error says why
    that failed; without one, this process has ended. -/
abbrev Replacer := OsText → List OsText → Action (Option IoError)

end BrokerClient
