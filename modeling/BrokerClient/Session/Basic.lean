import BrokerClient.Config.Basic
import BrokerClient.Dispatch.Failure
import BrokerClient.Session.Broker
import BrokerClient.Session.Target

/-!
# Sessions

What an invocation knows about its servers: a broker for each of them, in the
order of the configuration, and the targets that they offer. Closing a session
stores the cookies that have changed.

## Main definitions

* `Session`: The brokers and targets.
* `Session.start`: The session of a configuration.
* `Session.resolveTarget`, `Session.resolveBroker`: What names lead to.
* `Session.dropCookies`: What logging out does to a session.
* `Session.logout`, `Session.close`: The end of sessions.
-/

namespace BrokerClient

/-- The brokers and targets of an invocation. -/
structure Session where
  directory : StateDirectory
  brokers : List Broker
  targets : List Target
  deriving DecidableEq

namespace Session

/-- The part of the program that events about sessions name. -/
def logTarget : String := CookieFile.logTarget

/-- Where the targets of a server are taken from, given the place of the
    server. -/
abbrev TargetSource := Server → Nat → Action (Except InventoryError (List Target))

/-- The targets of a server, or none, with a warning, if they cannot be
    read. -/
def targetsOf (source : TargetSource) (server : Server) (broker : Nat) : Action (List Target) := do
  match ← source server broker with
  | .ok targets => return targets
  | .error e =>
    Action.log .warn logTarget "ignoring unusable target inventory" [("server", server.text)]
      (some e.message)
    return []

/-- The brokers and targets of servers, given the place of the first one. -/
def connectFrom (directory : StateDirectory) (source : TargetSource) :
    Nat → List Server → Action (List Broker × List Target)
  | _, [] => return ([], [])
  | broker, server :: servers => do
    let targets ← targetsOf source server broker
    let first ← Broker.connect directory server
    let (brokers, others) ← connectFrom directory source (broker + 1) servers
    return (first :: brokers, targets ++ others)

/-- The session of a configuration with targets from a source. -/
def startWith (c : Config) (source : TargetSource) : Action Session := do
  let (brokers, targets) ← connectFrom c.stateDirectory source 0 c.servers
  Action.log .debug logTarget "session opened"
    [("brokers", toString brokers.length), ("targets", toString targets.length)]
  return ⟨c.stateDirectory, brokers, targets⟩

/-- The session of a configuration. -/
def start (c : Config) : Action Session := startWith c (Inventory.read c.stateDirectory)

/-! ## Names -/

/-- The target that a name leads to: the first one with that full name, or the
    only one with that name. -/
def resolveTarget (s : Session) (name : String) : Except ResolveError Target :=
  match s.targets.find? fun t => t.fullName = name with
  | some target => .ok target
  | none =>
    -- A name with a slash can only be a full name.
    if name.toList.contains '/' then .error (.unknownTarget name)
    else
      match s.targets.filter fun t => t.name = name with
      | [] => .error (.unknownTarget name)
      | [target] => .ok target
      | several => .error (.ambiguousTarget name (several.map Target.fullName))

/-- The broker that a name leads to: the first one that answers to it, or the
    one of the target with that name. -/
def resolveBroker (s : Session) (name : String) : Action (Except ResolveError Broker) := do
  match s.brokers.find? fun b => b.answersTo name with
  | some broker => return .ok broker
  | none =>
    match s.resolveTarget name with
    | .error e => return .error e
    | .ok target =>
      Action.log .debug logTarget "resolved target"
        [("fullid", target.fullName), ("disabled", toString target.disabled)]
      match s.brokers[target.broker]? with
      | some broker => return .ok broker
      | none => return .error (.unknownTarget name)

/-! ## Logging out -/

/-- The place of the first broker that answers to a name. -/
def placeOf (s : Session) (name : String) : Except ResolveError Nat :=
  match s.brokers.findIdx? fun b => b.answersTo name with
  | some place => .ok place
  | none => .error (.unknownServer name)

/-- The places of the brokers that names lead to. No names stand for all
    brokers. -/
def selected (s : Session) (names : List String) : Except ResolveError (List Nat) :=
  if names.isEmpty then .ok (List.range s.brokers.length) else names.mapM s.placeOf

/-- The session without the cookies of the brokers at some places, and the
    servers that had cookies, in their order. -/
def forgetAt (s : Session) : List Nat → Session × List Server
  | [] => (s, [])
  | place :: places =>
    match s.brokers[place]? with
    | none => s.forgetAt places
    | some b =>
      -- A broker that is selected again has no cookies left.
      let (rest, servers) :=
        forgetAt { s with brokers := s.brokers.set place b.forget } places
      (rest, if b.hasCookies then b.server :: servers else servers)

/-- The session without the cookies of the brokers that names lead to, and the
    servers that had cookies. If one of the names leads nowhere, nothing is
    dropped. -/
def dropCookies (s : Session) (names : List String) :
    Except ResolveError (Session × List Server) :=
  (s.selected names).map s.forgetAt

/-- Drops the cookies of the brokers that names lead to. Returns the session and
    how many brokers had cookies. -/
def logout (s : Session) (names : List String) :
    Action (Except ResolveError (Session × Nat)) := do
  match s.dropCookies names with
  | .error e => return .error e
  | .ok (rest, servers) =>
    for server in servers do
      Action.log .debug logTarget "cookies dropped" [("server", server.text)]
    return .ok (rest, servers.length)

/-! ## Closing -/

/-- Stores the cookies of brokers. All are stored, even if that fails for one
    of them. The first error is returned, and the others are reported. -/
def flushAll (directory : StateDirectory) :
    Option SessionError → List Broker → Action (Option SessionError)
  | first, [] => return first
  | first, b :: brokers => do
    match ← b.flush directory with
    | .ok () => flushAll directory first brokers
    | .error e =>
      match first with
      | none => flushAll directory (some e) brokers
      | some _ =>
        Action.log .warn logTarget "failed to persist cookies" [] (some e.message)
        flushAll directory first brokers

/-- Stores the cookies that have changed. -/
def close (s : Session) : Action (Except SessionError Unit) := do
  match ← flushAll s.directory none (s.brokers.filter Broker.changed) with
  | none => return .ok ()
  | some e => return .error e

end Session

end BrokerClient
