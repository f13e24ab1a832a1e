import BrokerClient.CommandLine.Command
import BrokerClient.Dispatch.Failure
import BrokerClient.Dispatch.Result
import BrokerClient.Host.Sink
import BrokerClient.Session.Basic

/-!
# Handlers

A handler carries out a command. It sees the configuration, uses and changes the
session, and writes to two outputs. What it wrote and changed stays when it
fails.

## Main definitions

* `Context`: What a handler sees and changes.
* `Task`: Work in a context.
* `Task.report`: Writes to the output for errors.
* `Handler`: Carries out a command.
* `Attempt.print`: Writes to the output.
-/

namespace BrokerClient

/-- What a handler sees and changes. -/
structure Context where
  config : Config
  /-- The configuration files that are reported to the operator. -/
  configFiles : List Path
  session : Session
  output : Sink
  errors : Sink

/-- Work in a context. -/
abbrev Task := StateT Context Action

/-- Writes to the output for errors. Where that fails there is nobody to
    tell. -/
def Task.report (text : String) : Task Unit :=
  modify fun c => { c with errors := (c.errors.writeText text).1 }

/-- Work in a context that may fail. -/
abbrev Attempt := ExceptT CommandError Task

/-- Carries out a command. -/
abbrev Handler := Command → Attempt CommandResult

/-- Writes to the output. -/
def Attempt.print (text : String) : Attempt Unit := do
  let c ← get
  let (output, written) := c.output.writeText text
  set { c with output }
  match written with
  | .ok () => return ()
  | .error e => throw (.output e)

end BrokerClient
