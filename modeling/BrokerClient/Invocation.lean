import BrokerClient.CommandLine.ConfigArguments
import BrokerClient.CommandLine.Parser
import BrokerClient.Commands
import BrokerClient.Config.Loading
import BrokerClient.Handoff.Controller

/-!
# Invocations

One run of the client from its arguments to its exit code. The arguments are
read, the configuration is loaded, assignments are applied to the environment,
the logger is settled, the session is opened, the handoff to make is decided,
the command is carried out, and at the end the handoff file is removed and the
session is closed. The first step that fails ends the run; what the steps
before it did stays.

How the configuration is loaded, how programs are started, and how the process
goes on as another one are parameters. The usual ones are those of `standard`.

A process in which something else prints events already, without being known as
its logger, is left out. There the logger could not be settled, and the run would
end with an error of its own. This program sets up nothing of that kind.

## Main definitions

* `Surroundings`: The parameters.
* `InvocationError`: Why a run ends early.
* `Invocation.prepare`: The steps that need no session.
* `Invocation.settleHandoff`: The decision about the handoff.
* `Invocation.work`: The command and the steps behind it.
* `Invocation.run`: A whole run.
-/

namespace BrokerClient

/-- What a run depends on, apart from the machine. -/
structure Surroundings where
  /-- Loads the configuration, given the program and its configuration
      flags. -/
  load : Machine → List OsText → Except (List Config.LoadFault) Config
  launcher : Launcher
  replacer : Replacer

/-- The usual way to load the configuration, with a launcher and a replacer. -/
def Surroundings.standard (launcher : Launcher) (replacer : Replacer) : Surroundings :=
  ⟨Config.load, launcher, replacer⟩

/-- Why a run ends early. -/
inductive InvocationError where
  | usage (error : Options.Error)
  | loading (faults : List Config.LoadFault)
  | assignment (error : AssignmentError)
  | logging (flaw : Log.Filter.Flaw)
  | handoff (error : HandoffError)
  deriving DecidableEq, Repr

/-- How a run has ended: with an exit code, or as another program. -/
inductive Ending where
  | exited (code : UInt8)
  | replaced
  deriving DecidableEq, Repr

/-- How a run has ended, and what it wrote to its two outputs. -/
structure Report where
  ending : Ending
  output : Sink
  errors : Sink
  deriving DecidableEq

/-! ## Wordings -/

/-- The wording of a fault. -/
def Config.LoadFault.message : Config.LoadFault → String
  | .flags error => error.message
  | .file (.unusable path) => "cannot use configuration file " ++ path.quoted
  | .file (.cycle paths) =>
    "configuration files extend each other: " ++
      String.intercalate " -> " (paths.map OsText.shown)
  | .value => "a setting has a value that is not of its kind"

/-- The wording of an error that is not about usage. -/
def InvocationError.message : InvocationError → String
  | usage error => error.message
  | loading faults =>
    "failed to load configuration: " ++
      String.intercalate "; " (faults.map Config.LoadFault.message)
  | assignment error => error.message
  | logging flaw => "failed to initialise logging: invalid log filter: " ++ flaw.message
  | handoff error => error.message

/-- What an operator is told who asked for something that there is not. -/
def usageHint : String := "\n\nFor more information, try '--help'.\n"

namespace Invocation

/-- A step of a run. -/
abbrev Step := ExceptT InvocationError Action

/-- A step that is an action which may fail. -/
def Step.ofAction {ε α : Type} (wrap : ε → InvocationError) (action : Action (Except ε α)) :
    Step α := do
  match ← action with
  | .ok a => return a
  | .error e => throw (wrap e)

/-! ## Before the session -/

/-- What is known when everything has been read. -/
structure Plan where
  arguments : List OsText
  parts : ConfigArguments
  line : CommandLine
  config : Config

/-- Settles what prints events, unless that is settled already. -/
def settleLogger (config : Config) (debug : Bool) : Action (Except Log.Filter.Flaw Unit) := do
  let m ← get
  match m.logger with
  | some _ => return .ok ()
  | none =>
    match Log.Logger.create config.logFilter config.logFormat debug with
    | .ok logger =>
      set { m with logger := some logger }
      return .ok ()
    | .error flaw => return .error flaw

/-- Reads the arguments, loads the configuration, applies the assignments and
    settles the logger. -/
def prepare (s : Surroundings) (arguments : List OsText) : Step Plan := do
  let parts := ConfigArguments.split arguments
  let line ← Step.ofAction .usage (return CommandLine.parse parts.withoutConfig)
  let config ← Step.ofAction .loading (return s.load (← get) parts.configArguments)
  Step.ofAction .assignment (Assignment.inject line.environment)
  Step.ofAction .logging (settleLogger config line.debug)
  return ⟨arguments, parts, line, config⟩

/-! ## The handoff -/

/-- The command line to start again under make. -/
def Plan.relaunch (p : Plan) : Relaunch :=
  Relaunch.create (p.arguments.headD .empty) (p.parts.configArguments.drop 1)
    p.parts.commandArguments

/-- The token in the flags. -/
def Plan.token (p : Plan) : HandoffToken :=
  HandoffToken.ofFlags p.line.makeJobserver p.line.noMakeJobserver

/-- What the handoff depends on. -/
def controller (m : Machine) (config : Config) : Controller :=
  ⟨config.makeProgram, config.jobs, Directories.temporary m⟩

/-- Decides whether the command is carried out by this process. Only programs
    are handed over. -/
def settleHandoff (s : Surroundings) (p : Plan) : Step Coordination :=
  match p.line.command with
  | some (.run _) => do
    let c := controller (← get) p.config
    Step.ofAction .handoff (c.coordinate s.replacer p.token p.relaunch)
  | _ => return .direct

/-! ## The command -/

/-- The part of the program that events about runs name. -/
def logTarget : String := "tcf-cli::runtime"

/-- Closes a session. A failure is only reported. -/
def closeSession (session : Session) : Action Unit := do
  match ← session.close with
  | .ok () => pure ()
  | .error e => Action.log .warn logTarget "failed to persist session state" [] (some e.message)

/-- Carries out the command, ends the lease on a handoff file and closes the
    session. The exit status is that of the command alone. -/
def work (s : Surroundings) (p : Plan) (session : Session) (lease : Option Path)
    (output errors : Sink) : Action Report := do
  let configFiles := Discovery.files (← get) p.parts.configArguments
  let dispatcher := Commands.dispatcher s.launcher p.line.traces
  let (result, c) ←
    (dispatcher.dispatch p.line.command).run ⟨p.config, configFiles, session, output, errors⟩
  let status ← result.settle
  -- What fails from here on no longer changes the status.
  match lease with
  | some handoff => Controller.releaseLease handoff
  | none => pure ()
  closeSession c.session
  return ⟨.exited (exitCode status), c.output, c.errors⟩

/-- All steps of a run. -/
def steps (s : Surroundings) (arguments : List OsText) (output errors : Sink) : Step Report := do
  let p ← prepare s arguments
  let session ← Session.start p.config
  -- If the handoff fails, the session is not closed. It has not changed yet.
  match ← settleHandoff s p with
  | .direct => work s p session none output errors
  | .leased handoff => work s p session (some handoff) output errors
  | .replaced => return ⟨.replaced, output, errors⟩

/-- The report of a run that ended early. Help and version go to the output and
    are no failure. -/
def reportError (output errors : Sink) (e : InvocationError) : Report :=
  match e with
  | .usage error =>
    if error.isReport then ⟨.exited 0, (output.writeText error.message).1, errors⟩
    else ⟨.exited 1, output, (errors.writeText (error.message ++ usageHint)).1⟩
  | e => ⟨.exited 1, output, (errors.writeText ("error: " ++ e.message ++ "\n")).1⟩

/-- A whole run, given the outputs. -/
def run (s : Surroundings) (arguments : List OsText) (output errors : Sink) : Action Report := do
  match ← (steps s arguments output errors).run with
  | .ok report => return report
  | .error e => return reportError output errors e

end Invocation

end BrokerClient
