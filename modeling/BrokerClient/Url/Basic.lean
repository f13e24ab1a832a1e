import BrokerClient.Url.Address

/-!
# URLs

A URL as a record of its parts, each in the form in which it is written, and the
text that the parts make.

## Main definitions

* `Url`: The parts.
* `Url.Host`: A domain name or an address.
* `Url.serialize`: The text of a URL.
* `Url.hostText?`: The host as it stands in the text.
* `Url.defaultPort?`: The port that a scheme implies.
-/

namespace BrokerClient

/-- A domain name, or an address by number or by pieces. -/
inductive Url.Host where
  | domain (name : String)
  | ipv4 (number : Nat)
  | ipv6 (pieces : List Nat)
  deriving DecidableEq, Repr

/-- The part behind the host. A URL without a host may have a path that is one
    text without segments. -/
inductive Url.Path where
  | segments (names : List String)
  | plain (text : String)
  deriving DecidableEq, Repr

/-- A URL by its parts, each in written form. A port that the scheme implies is
    left out. -/
structure Url where
  scheme : String
  username : String
  password : Option String
  host : Option Url.Host
  /-- Whether two slashes stand in front of an empty host. -/
  emptyHost : Bool
  port : Option Nat
  path : Url.Path
  query : Option String
  fragment : Option String
  deriving DecidableEq, Repr

namespace Url

/-- The text of a host. -/
def Host.text : Host → String
  | .domain name => name
  | .ipv4 number => String.ofList (ipv4Text number)
  | .ipv6 pieces => "[" ++ String.ofList (ipv6Text pieces) ++ "]"

/-- The text of a path. -/
def Path.text : Path → String
  | .segments names => String.join (names.map ("/" ++ ·))
  | .plain text => text

/-- The port that a scheme implies. -/
def defaultPort? (scheme : String) : Option Nat :=
  if scheme = "http" || scheme = "ws" then some 80
  else if scheme = "https" || scheme = "wss" then some 443
  else if scheme = "ftp" then some 21
  else none

/-- The schemes whose URLs always have a host and a path by segments. -/
def isSpecial (scheme : String) : Bool :=
  scheme ∈ ["http", "https", "ws", "wss", "ftp", "file"]

/-- The host as it stands in the text. -/
def hostText? (u : Url) : Option String := u.host.map Host.text

/-- The user name and the password with their sign, if there are any. -/
def userInfoText (u : Url) : String :=
  let password := match u.password with
    | some p => ":" ++ p
    | none => ""
  if u.username.isEmpty && u.password.isNone then "" else u.username ++ password ++ "@"

/-- The part between the scheme and the path. Without a host, a path that
    starts with an empty segment is kept apart from the slashes of a host by a
    segment that counts for nothing. -/
def authorityText (u : Url) : String :=
  match u.host with
  | some host =>
    let port := match u.port with
      | some p => ":" ++ toString p
      | none => ""
    "//" ++ userInfoText u ++ host.text ++ port
  | none =>
    if u.emptyHost then "//"
    else
      match u.path with
      | .segments ("" :: _ :: _) => "/."
      | _ => ""

/-- The text of a URL. -/
def serialize (u : Url) : String :=
  let query := match u.query with
    | some q => "?" ++ q
    | none => ""
  let fragment := match u.fragment with
    | some f => "#" ++ f
    | none => ""
  u.scheme ++ ":" ++ authorityText u ++ u.path.text ++ query ++ fragment

end Url

end BrokerClient
