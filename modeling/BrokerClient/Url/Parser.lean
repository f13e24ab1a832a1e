import BrokerClient.Idna.Domain
import BrokerClient.Unicode.Blank
import BrokerClient.Url.Basic

/-!
# Reading URLs

Absolute URLs, read as browsers read them: blanks and controls around the text
and line breaks inside it are dropped, the schemes of the web tolerate missing
slashes and backslashes, host names are brought into ASCII form, numeric hosts
into address form, dots in paths are resolved, and characters that a part cannot
hold are percent encoded.

The readers below take a part from the front of the text and return the rest.
The characters at which a part ends are the same in all of them: a slash, the
question mark of a query and the sign of a fragment, and for special schemes a
backslash.

## Main definitions

* `Url.Error`: Why a text is no URL.
* `Url.parse`: Reads a URL.
* `Url.Host.parse`: Reads the host of a special scheme.
* `Url.resolveDots`: The segments of a path without dots.
-/

namespace BrokerClient

namespace Url

/-- Why a text is no absolute URL. -/
inductive Error where
  | emptyHost
  | invalidDomain
  | invalidPort
  | invalidIpv4
  | invalidIpv6
  | invalidDomainCharacter
  | relativeWithoutBase
  deriving DecidableEq, Repr

/-- The wording of an error. -/
def Error.message : Error → String
  | emptyHost => "empty host"
  | invalidDomain => "invalid international domain name"
  | invalidPort => "invalid port number"
  | invalidIpv4 => "invalid IPv4 address"
  | invalidIpv6 => "invalid IPv6 address"
  | invalidDomainCharacter => "invalid domain character"
  | relativeWithoutBase => "relative URL without a base"

/-! ## Text around a URL -/

/-- Controls and the space, which count for nothing around a URL. -/
def isMargin (c : Char) : Bool := c.toNat ≤ 0x20

/-- Characters that count for nothing inside a URL. -/
def isSkipped (c : Char) : Bool := c = '\t' || c = '\n' || c = '\r'

/-- The text that counts. -/
def significant (text : List Char) : List Char :=
  (Unicode.trimWhere isMargin text).filter (!isSkipped ·)

/-- The scheme in lower case, and the text behind its colon. -/
def splitScheme? (cs : List Char) : Option (List Char × List Char) :=
  match cs with
  | [] => none
  | c :: _ =>
    let isSchemeChar (c : Char) : Bool := c.isAlphanum || c ∈ ['+', '-', '.']
    match c.isAlpha, cs.dropWhile isSchemeChar with
    | true, ':' :: rest => some ((cs.takeWhile isSchemeChar).map Char.toLower, rest)
    | _, _ => none

/-- Whether a character ends the part that names the host. -/
def endsAuthority (special : Bool) (c : Char) : Bool :=
  c = '/' || c = '?' || c = '#' || (special && c = '\\')

/-! ## Hosts -/

/-- Reads an address between brackets. -/
def Host.parseBracketed (cs : List Char) : Except Error Host :=
  if cs.getLast? = some ']' && 2 ≤ cs.length then
    match readIpv6? (cs.drop 1).dropLast with
    | some pieces => .ok (.ipv6 pieces)
    | none => .error .invalidIpv6
  else .error .invalidIpv6

/-- Reads the host of a special scheme. -/
def Host.parse (cs : List Char) : Except Error Host :=
  if cs.head? = some '[' then Host.parseBracketed cs
  else
    match Idna.toAscii? (percentDecode cs) with
    | none => .error .invalidDomain
    | some name =>
      if name.isEmpty then .error .emptyHost
      else if endsInNumber name then
        match readIpv4? name with
        | some n => .ok (.ipv4 n)
        | none => .error .invalidIpv4
      else .ok (.domain (String.ofList name))

/-- Characters that a host of a scheme that is not special cannot hold. -/
def isForbiddenInHost (c : Char) : Bool :=
  c ∈ ['\x00', '\t', '\n', '\r', ' ', '#', '/', ':', '<', '>', '?', '@', '[', '\\', ']', '^', '|']

/-- Reads the host of a scheme that is not special. -/
def Host.parsePlain (cs : List Char) : Except Error Host :=
  if cs.head? = some '[' then Host.parseBracketed cs
  else if cs.any isForbiddenInHost then .error .invalidDomainCharacter
  else .ok (.domain (String.ofList (percentEncode isControl cs)))

/-- Splits the text of a host from what follows it. A colon ends the host
    unless it stands between brackets. -/
def splitHost (special : Bool) (inBrackets : Bool) : List Char → List Char × List Char
  | [] => ([], [])
  | c :: r =>
    if endsAuthority special c || (c = ':' && !inBrackets) then ([], c :: r)
    else
      let inside := if c = '[' then true else if c = ']' then false else inBrackets
      let (host, rest) := splitHost special inside r
      (c :: host, rest)

/-- Reads a port, which may be empty, and leaves out the one that the scheme
    implies. -/
def readPort (scheme : String) (cs : List Char) : Except Error (Option Nat × List Char) :=
  let digits := cs.takeWhile Char.isDigit
  let rest := cs.dropWhile Char.isDigit
  let value := digits.foldl (fun n c => n * 10 + (c.toNat - '0'.toNat)) 0
  if 0xFFFF < value then .error .invalidPort
  else if rest.head?.any fun c => !(c ∈ ['/', '\\', '?', '#']) then .error .invalidPort
  else if digits.isEmpty || defaultPort? scheme = some value then .ok (none, rest)
  else .ok (some value, rest)

/-! ## User names -/

/-- A user name and a password in written form. An empty password is none. -/
structure UserInfo where
  username : String
  password : Option String
  deriving DecidableEq, Repr

/-- Nobody. -/
def UserInfo.none : UserInfo := ⟨"", .none⟩

/-- The user name in front of the first colon and the password behind it. -/
def UserInfo.ofChars (cs : List Char) : UserInfo :=
  let written (cs : List Char) : String := String.ofList (percentEncode inUserInfo cs)
  let name := cs.takeWhile (· ≠ ':')
  let secret := (cs.dropWhile (· ≠ ':')).drop 1
  ⟨written name, if secret.isEmpty then .none else some (written secret)⟩

/-- The part in front of the last at sign before the host ends, and the text
    from the host on. An at sign with nothing before it needs a host behind
    it. -/
def splitUserInfo (special : Bool) (cs : List Char) : Except Error (UserInfo × List Char) :=
  let region := cs.takeWhile (!endsAuthority special ·)
  let after := cs.dropWhile (!endsAuthority special ·)
  if region.contains '@' then
    -- The at signs before the last one belong to the user.
    let host := (region.reverse.takeWhile (· ≠ '@')).reverse
    let info := region.take (region.length - host.length - 1)
    let rest := host ++ after
    if info.isEmpty then
      match rest with
      | c :: _ => if endsAuthority special c then .error .emptyHost else .ok (.none, rest)
      | [] => .ok (.none, [])
    else .ok (UserInfo.ofChars info, rest)
  else .ok (.none, cs)

/-! ## Paths -/

/-- A segment that stands for the segment before it. -/
def isDoubleDot (cs : List Char) : Bool :=
  let s := String.ofList (cs.map Char.toLower)
  s ∈ ["..", "%2e.", ".%2e", "%2e%2e"]

/-- A segment that stands for nothing. -/
def isSingleDot (cs : List Char) : Bool :=
  let s := String.ofList (cs.map Char.toLower)
  s ∈ [".", "%2e"]

/-- A letter and a colon or a bar, which name a disk. -/
def isDriveLetter (cs : List Char) : Bool :=
  match cs with
  | [a, b] => a.isAlpha && (b = ':' || b = '|')
  | _ => false

/-- The segments of a path without dots, from the segments that are left and
    the reversed segments so far. Dots at the end leave an empty segment. Dots
    never remove a disk. The disk of a file is written with a colon. -/
def resolveDots (file : Bool) (done : List (List Char)) : List (List Char) → List (List Char)
  | [] => done.reverse
  | s :: rest =>
    if isDoubleDot s then
      let shorter := match done with
        | last :: before => if isDriveLetter last then done else before
        | [] => []
      resolveDots file (if rest.isEmpty then [] :: shorter else shorter) rest
    else if isSingleDot s then resolveDots file (if rest.isEmpty then [] :: done else done) rest
    else
      let written := percentEncode inPath s
      let written :=
        if file && done.isEmpty && isDriveLetter written then written.take 1 ++ [':'] else written
      resolveDots file (written :: done) rest

/-- The parts between the slashes of a path. -/
def splitSegments (special : Bool) : List Char → List (List Char)
  | [] => [[]]
  | c :: r =>
    if c = '/' || (special && c = '\\') then [] :: splitSegments special r
    else
      match splitSegments special r with
      | s :: rest => (c :: s) :: rest
      | [] => [[c]]

/-- The path of a text without its first slash. -/
def readSegments (special file : Bool) (cs : List Char) : Path :=
  let resolved := resolveDots file [] (splitSegments special cs)
  let kept :=
    if file then
      -- A path of a file does not start with empty segments.
      match resolved.dropWhile List.isEmpty with
      | [] => [[]]
      | some_ => some_
    else resolved
  .segments (kept.map String.ofList)

/-- Splits the text of a path from the query and the fragment. -/
def splitTail (cs : List Char) : List Char × List Char :=
  (cs.takeWhile fun c => c ≠ '?' && c ≠ '#', cs.dropWhile fun c => c ≠ '?' && c ≠ '#')

/-- The query and the fragment of the text from their sign on. -/
def readTail (special : Bool) (cs : List Char) : Option String × Option String :=
  let fragment (cs : List Char) : String := String.ofList (percentEncode inFragment cs)
  match cs with
  | '?' :: r =>
    let query := r.takeWhile (· ≠ '#')
    let set := if special then inSpecialQuery else inQuery
    let written := some (String.ofList (percentEncode set query))
    match r.dropWhile (· ≠ '#') with
    | _ :: f => (written, some (fragment f))
    | [] => (written, none)
  | '#' :: r => (none, some (fragment r))
  | _ => (none, none)

/-! ## Kinds of URLs -/

/-- A URL with a host, behind its two slashes. The empty host of a scheme that
    is not special cannot have a user or a port. -/
def parseAuthority (scheme : String) (cs : List Char) : Except Error Url := do
  let special := isSpecial scheme
  let (info, cs) ← splitUserInfo special cs
  let (hostText, rest) := splitHost special false cs
  if special && hostText.isEmpty then .error .emptyHost
  else
    let host ← if special then Host.parse hostText else Host.parsePlain hostText
    let isEmpty := host = .domain ""
    if isEmpty && rest.head? = some ':' then .error .emptyHost
    else
      let (port, rest) ← match rest with
        | ':' :: r => readPort scheme r
        | rest => .ok (none, rest)
      if isEmpty && info ≠ .none then .error .emptyHost
      else
        let (pathText, tail) := splitTail rest
        -- A URL that ends at its host still has a path if it is special.
        let path := match pathText with
          | [] => if special then .segments [""] else .segments []
          | c :: r =>
            if c = '/' || (special && c = '\\') then readSegments special false r
            else readSegments special false pathText
        let (query, fragment) := readTail special tail
        .ok {
          scheme, username := info.username, password := info.password
          host := if isEmpty then none else some host
          emptyHost := isEmpty
          port, path, query, fragment }

/-- A URL of a file, behind the colon of its scheme. -/
def parseFile (cs : List Char) : Except Error Url := do
  let isSlash (c : Char) : Bool := c = '/' || c = '\\'
  let finish (host : Option Host) (cs : List Char) : Url :=
    let (pathText, tail) := splitTail cs
    let (query, fragment) := readTail true tail
    let path := match pathText with
      | c :: r => readSegments true true (if isSlash c then r else pathText)
      | [] => readSegments true true []
    let onDisk := match path with
      | .segments (first :: _) => isDriveLetter first.toList
      | _ => false
    let host := if onDisk then none else host
    { scheme := "file", username := "", password := none, host, emptyHost := host.isNone
      port := none, path, query, fragment }
  match cs with
  | a :: b :: r =>
    if isSlash a && isSlash b then
      let hostText := r.takeWhile fun c => !(isSlash c || c = '?' || c = '#')
      if hostText.isEmpty || isDriveLetter hostText then .ok (finish none r)
      else
        let rest := r.drop hostText.length
        match ← Host.parse hostText with
        | .domain "localhost" => .ok (finish none rest)
        | host => .ok (finish (some host) rest)
    else .ok (finish none cs)
  | cs => .ok (finish none cs)

/-- A URL without a host, behind the colon of its scheme. -/
def parseHostless (scheme : String) (cs : List Char) : Url :=
  let (pathText, tail) := splitTail cs
  let (query, fragment) := readTail false tail
  let path := match pathText with
    | '/' :: r => readSegments false false r
    | text => .plain (String.ofList (percentEncode inOpaquePath text))
  { scheme, username := "", password := none, host := none, emptyHost := false
    port := none, path, query, fragment }

/-- Reads an absolute URL. -/
def parse (text : List Char) : Except Error Url :=
  match splitScheme? (significant text) with
  | none => .error .relativeWithoutBase
  | some (scheme, rest) =>
    let scheme := String.ofList scheme
    if scheme = "file" then parseFile rest
    else if isSpecial scheme then
      parseAuthority scheme (rest.dropWhile fun c => c = '/' || c = '\\')
    else
      match rest with
      | '/' :: '/' :: r => parseAuthority scheme r
      | rest => .ok (parseHostless scheme rest)

end Url

end BrokerClient
