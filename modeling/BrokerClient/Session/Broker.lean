import BrokerClient.Session.CookieFile
import BrokerClient.StateDirectory

/-!
# Brokers

A broker is a server in use: the server with its cookies, and whether the
cookies have changed since they were loaded.

## Main definitions

* `Broker`: A server with its cookies.
* `Broker.connect`: Loads the cookies of a server.
* `Broker.answersTo`: Whether a name is a name of a broker.
* `Broker.forget`: A broker without cookies.
* `Broker.flush`: Stores the cookies.
-/

namespace BrokerClient

/-- A server in use. -/
structure Broker where
  server : Server
  cookies : Cookies
  cookiesPath : Path
  /-- Whether the cookies have changed since they were loaded. -/
  changed : Bool
  deriving DecidableEq

/-- Why the cookies of a server cannot be stored. -/
inductive SessionError where
  | directory (error : StateDirectoryError)
  | serialise (server reason : String)
  | write (path : Path) (source : IoError)
  | remove (path : Path) (source : IoError)
  deriving DecidableEq

/-- The wording of an error. -/
def SessionError.message : SessionError → String
  | directory error => error.message
  | serialise server reason => "failed to serialise cookies for " ++ server ++ ": " ++ reason
  | write path source => "failed to write cookies to " ++ path.quoted ++ ": " ++ source.message
  | remove path source =>
    "failed to remove cookies file " ++ path.quoted ++ ": " ++ source.message

namespace Broker

/-- Loads the cookies of a server from the state directory. -/
def connect (directory : StateDirectory) (server : Server) : Action Broker := do
  let path := directory.cookiesPath server
  return ⟨server, ← CookieFile.load path, path, false⟩

/-- The short name of the server. -/
def name (b : Broker) : String := b.server.name

/-- A text without the slashes at its end. -/
def withoutSlashes (text : String) : List Char :=
  Unicode.dropEndWhile (· = '/') text.toList

/-- Whether a name is the short name or the address of a broker. Slashes at the
    end of an address do not count. -/
def answersTo (b : Broker) (name : String) : Bool :=
  withoutSlashes b.server.url.serialize = withoutSlashes name || b.name = name

/-- Whether there are cookies. -/
def hasCookies (b : Broker) : Bool := !b.cookies.isEmpty

/-- The broker without cookies. It counts as changed if there were any. -/
def forget (b : Broker) : Broker :=
  if b.hasCookies then { b with cookies := [], changed := true } else b

/-- The content of a cookie file. Texts can always be written as JSON, so there is
    nothing that this could fail with. -/
def fileContent (cookies : Cookies) : List UInt8 :=
  Utf8.encode (Json.indented cookies).toList

/-- Stores the cookies. If there are none, their file is removed. -/
def flush (directory : StateDirectory) (b : Broker) : Action (Except SessionError Unit) := do
  if b.hasCookies then
    match ← directory.ensure with
    | .error e => return .error (.directory e)
    | .ok () =>
      return (← CookieFile.replace b.cookiesPath (fileContent b.cookies)).mapError
        (.write b.cookiesPath)
  else
    return (← CookieFile.remove b.cookiesPath).mapError (.remove b.cookiesPath)

end Broker

end BrokerClient
