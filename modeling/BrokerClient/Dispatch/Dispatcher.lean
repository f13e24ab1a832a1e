import BrokerClient.CommandLine.Grammar
import BrokerClient.Dispatch.Handler
import BrokerClient.Options.Help

/-!
# Dispatching

A dispatcher finds the handler of a command by the command's name and turns its
failure into a result, after a report to the operator. Without a command it
says how the program is used.

## Main definitions

* `Dispatcher`: Handlers by name.
* `Dispatcher.register`: Adds a handler.
* `Dispatcher.dispatch`: Carries out a command.
-/

namespace BrokerClient

/-- Handlers by the names of their commands, and whether failures are reported
    with their causes. -/
structure Dispatcher where
  handlers : List (String × Handler)
  traces : Bool

namespace Dispatcher

/-- A dispatcher without handlers. -/
def empty (traces : Bool) : Dispatcher := ⟨[], traces⟩

/-- Adds a handler, in place of one with the same name. -/
def register (d : Dispatcher) (name : String) (handler : Handler) : Dispatcher :=
  { d with handlers := KeyedList.insert name handler d.handlers }

/-- The handler of a name. -/
def handler? (d : Dispatcher) (name : String) : Option Handler :=
  KeyedList.lookup name d.handlers

/-- The names that have handlers, in ascending order. -/
def names (d : Dispatcher) : List String := d.handlers.map Prod.fst

/-- Reports a failure of a command. -/
def reportFailure (d : Dispatcher) (name : String) (e : CommandError) : Task Unit :=
  (e.describe name d.traces).forM fun line => Task.report (line ++ "\n")

/-- Carries out a command that has a handler. -/
def handle (d : Dispatcher) (name : String) (work : Attempt CommandResult) :
    Task CommandResult := do
  Action.log .debug CommandResult.logTarget "dispatching" [("command", name)]
  match ← work.run with
  | .ok result =>
    Action.log .debug CommandResult.logTarget "command finished"
      [("command", name), ("shape", result.shape)]
    return result
  | .error e =>
    Action.log .debug CommandResult.logTarget "command failed" [("command", name)]
      (some e.message)
    d.reportFailure name e
    return .failure

/-- Carries out a command. -/
def dispatch (d : Dispatcher) (command : Option Command) : Task CommandResult := do
  match command with
  | none =>
    -- The line of use shows the program's own name, however it was called.
    Task.report (CommandLine.grammar.help CommandLine.grammar.name)
    return .failure
  | some c =>
    match d.handler? c.name with
    | none =>
      Task.report ("error: " ++ c.name ++ ": no handler for command\n")
      return .failure
    | some handler => d.handle c.name (handler c)

end Dispatcher

end BrokerClient
