import BrokerClient.Host.Assignment
import BrokerClient.Json.Printer
import BrokerClient.Json.Record
import BrokerClient.Url.Parser

/-!
# Servers

A server is a broker of test targets: its address, perhaps a short name that
the operator gave it, and perhaps a note where it was configured. A server
without a given name goes by the first label of its host and its port.

Servers are written in two ways. The text form is the address, with the given
name and an equals sign in front; it has no place for the note. The JSON form
is a record of address, name and note. Only the text form restricts addresses
to those of the web.

## Main definitions

* `Server`: A broker of test targets.
* `Server.parse`, `Server.text`: The text form.
* `Server.ofRecord?`, `Server.ofJson?`, `Server.ofJsonText?`, `Server.toJson`,
  `Server.jsonText`: The JSON form.
* `Server.name`: The short name.
* `Server.fileKey`: The part of file names that belongs to a server.
-/

namespace BrokerClient

/-- A broker of test targets. -/
structure Server where
  url : Url
  givenName : Option String
  origin : Option String
  deriving DecidableEq, Repr

/-- Why a text or an address is no server. -/
inductive ServerError where
  | unsupportedScheme (scheme : String)
  | missingHost (url : String)
  | malformed (error : Url.Error)
  deriving DecidableEq, Repr

/-- The wording of an error. -/
def ServerError.message : ServerError → String
  | unsupportedScheme scheme => "unsupported broker URL scheme '" ++ scheme ++ "'"
  | missingHost url => "missing host in broker URL '" ++ url ++ "'"
  | malformed error => error.message

namespace Server

/-- The port that stands in the name of a server whose address has none. -/
def usualPort : Nat := 5000

/-- A server at an address of the web. -/
def create (url : Url) (givenName : Option String) : Except ServerError Server :=
  if url.scheme ≠ "http" && url.scheme ≠ "https" then .error (.unsupportedScheme url.scheme)
  else if (url.hostText?.getD "").isEmpty then .error (.missingHost url.serialize)
  else .ok ⟨url, givenName, none⟩

/-- The host, or the empty text. -/
def hostname (s : Server) : String := s.url.hostText?.getD ""

/-- The name of a server that was given none: the first label of its host and
    its port. -/
def derivedName (s : Server) : String :=
  String.ofList (s.hostname.toList.takeWhile (· ≠ '.')) ++ "_" ++
    toString (s.url.port.getD usualPort)

/-- The short name. -/
def name (s : Server) : String := s.givenName.getD s.derivedName

/-- The address without the characters that separate its parts and without
    blanks, for use in file names. -/
def fileKey (s : Server) : String :=
  String.ofList (s.url.serialize.toList.filter fun c =>
    c ≠ ':' && c ≠ '/' && !Unicode.isBlank c)

/-! ## Text form -/

/-- The characters of names in the text form. -/
def isNameChar (c : Char) : Bool := c.isAlphanum || c = '-' || c = '_' || c = '.'

/-- Whether the text in front of an equals sign is a name and not a part of
    the address. -/
def isGivenName (cs : List Char) : Bool := !cs.isEmpty && cs.all isNameChar

/-- The given name and the address in a trimmed text. -/
def splitName (cs : List Char) : Option String × List Char :=
  match splitOnce '=' cs with
  | some (front, back) =>
    if isGivenName front then (some (String.ofList front), back) else (none, cs)
  | none => (none, cs)

/-- Reads the text form. -/
def parse (text : String) : Except ServerError Server := do
  let (givenName, address) := splitName (Unicode.trim text.toList)
  let url ← (Url.parse address).mapError .malformed
  create url givenName

/-- The text form. -/
def text (s : Server) : String :=
  match s.givenName with
  | some name => name ++ "=" ++ s.url.serialize
  | none => s.url.serialize

/-! ## JSON form -/

/-- The fields of the JSON form in their order. -/
def fieldNames : List String := ["url", "aka", "origin"]

/-- A text that may be missing. -/
def optionalText? : Option Json → Option (Option String)
  | none => some none
  | some .null => some none
  | some (.string text) => some (some text)
  | some _ => none

/-- The server that a record of the fields describes. -/
def ofRecord? (r : Json.Record) : Option Server := do
  match r with
  | [some (.string address), givenName, origin] =>
    let url ← (Url.parse address.toList).toOption
    some ⟨url, ← optionalText? givenName, ← optionalText? origin⟩
  | _ => none

/-- The server that a document describes: an object with the fields, or an
    array that lists them. -/
def ofJson? (document : Json) : Option Server :=
  match document with
  | .object fields => ofRecord? (fieldNames.map fun name => KeyedList.lookup name fields)
  | .array items =>
    -- Items that are missing at the end are fields that are missing.
    if fieldNames.length < items.length then none
    else ofRecord? ((List.range fieldNames.length).map fun i => items[i]?)
  | _ => none

/-- The server that a JSON text describes. -/
def ofJsonText? (text : String) : Option Server :=
  (Json.readRecord? fieldNames (Utf8.encode text.toList)).bind ofRecord?

/-- The fields of the JSON form that are there, in their order. -/
def jsonFields (s : Server) : List (String × Json) :=
  let optional (name : String) (value : Option String) : List (String × Json) :=
    match value with
    | some text => [(name, .string text)]
    | none => []
  ("url", .string s.url.serialize) :: optional "aka" s.givenName ++ optional "origin" s.origin

/-- The JSON form as a document. -/
def toJson (s : Server) : Json := Json.ofFields s.jsonFields

/-- The JSON form as a compact text, the address first. -/
def jsonText (s : Server) : String := "\x7b" ++ Json.compactFields s.jsonFields ++ "\x7d"

end Server

end BrokerClient
