import BrokerClient.Dispatch.Dispatcher
import BrokerClient.Json.Dotted
import BrokerClient.Program.Basic

/-!
# The Commands

The handlers of the commands. Each of them fails on a command that is not its
own.

## Main definitions

* `Commands.run`: Runs a program.
* `Commands.cookies`: Prints the cookies of a server.
* `Commands.config`: Prints the configuration.
* `Commands.servers`: Lists the servers.
* `Commands.logout`: Drops cookies.
* `Commands.dispatcher`: All handlers under the names of their commands.
-/

namespace BrokerClient

namespace Commands

/-- The part of the program that events about commands name. -/
def logTarget : String := "tcf-cli::commands"

/-- Fails because a command is not the one that a handler is for. -/
def mismatched (expected : String) (command : Command) : Attempt CommandResult :=
  throw (.mismatched expected command.name)

/-- The result of a program that has ended. -/
def resultOf : ExitStatus → CommandResult
  | .exited code => .integer code
  | .signalled signal => .other ("signal " ++ toString signal)

/-- What a missing program is told. -/
def noProgram : IoError := .reported .invalidInput "no command to run" []

/-- Runs a program. -/
def run (launcher : Launcher) : Handler
  | .run [] => throw (.launch "" noProgram)
  | .run (program :: arguments) => do
    -- Sinks hold nothing back, so there is nothing to flush in front of the program's output.
    Action.log .info logTarget "running command" [("program", program.shown)]
    match ← launcher.launch program arguments with
    | .ok status => return resultOf status
    | .error e => throw (.launch program.shown e)
  | command => mismatched "run" command

/-- Prints the cookies of the server that a name leads to. -/
def cookies : Handler
  | .cookies target asJar => do
    match ← (← get).session.resolveBroker target with
    | .error e => throw (.resolve e)
    | .ok broker =>
      Attempt.print
        (if asJar then broker.cookies.jar broker.server.hostname else broker.cookies.listing)
      return .nothing
  | command => mismatched "cookies" command

/-- The servers of a session by their names. Of servers with one name the last
    one is kept. -/
def serverListing (s : Session) (entry : Server → Json) : List (String × Json) :=
  KeyedList.ofList (s.brokers.map fun b => (b.name, entry b.server))

/-- The configuration as it is reported. -/
def configReport (c : Config) (files : List Path) (s : Session) : List (String × Json) :=
  KeyedList.ofList [
    ("state_dir", .string c.stateDir),
    ("share_dir", .string c.shareDir),
    ("config_files", .array (files.map fun p => .string p.shown)),
    ("make_program", .string c.makeProgram),
    ("make_jobs", .nat c.jobs),
    ("servers", .object (serverListing s Server.toJson))]

/-- Prints the configuration. -/
def config : Handler
  | .config => do
    let c ← get
    let report := configReport c.config c.configFiles c.session
    Attempt.print (Json.dotted (.object report))
    return .mapping report
  | command => mismatched "config" command

/-- What is listed for a server without a note. -/
def noOrigin : String := "-"

/-- The line of a server in the list of servers. -/
def serverLine (s : Server) : String :=
  s.name ++ " " ++ s.url.serialize ++ " " ++ s.origin.getD noOrigin ++ "\n"

/-- Lists the servers. -/
def servers : Handler
  | .servers => do
    let s := (← get).session
    s.brokers.forM fun b => Attempt.print (serverLine b.server)
    return .mapping (serverListing s fun server => .string server.url.serialize)
  | command => mismatched "servers" command

/-- Drops the cookies of some servers, or of all. -/
def logout : Handler
  | .logout names => do
    let c ← get
    if c.session.brokers.isEmpty then
      Action.log .info logTarget "no servers configured, nothing to log out of" []
      return .boolean false
    else
      match ← c.session.logout names with
      | .error e => throw (.resolve e)
      | .ok (session, cleared) =>
        set { c with session }
        Action.log .info logTarget "logged out" [("cleared", toString cleared)]
        return .boolean true
  | command => mismatched "logout" command

/-- The handlers under the names of their commands. -/
def handlers (launcher : Launcher) : List (String × Handler) :=
  [("run", run launcher), ("cookies", cookies), ("config", config), ("servers", servers),
    ("logout", logout)]

/-- The dispatcher with all handlers. -/
def dispatcher (launcher : Launcher) (traces : Bool) : Dispatcher :=
  (handlers launcher).foldl (fun d h => d.register h.1 h.2) (Dispatcher.empty traces)

end Commands

end BrokerClient
