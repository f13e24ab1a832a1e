import BrokerClient.Json.Printer
import BrokerClient.Text.Splitting

/-!
# Cookies

The session cookies of a server: names with values, in ascending order of the
names. They are stored as a JSON object of strings and printed in two ways, as
a plain listing and as the lines of a cookie jar, whose seven fields are
separated by tabs.

## Main definitions

* `Cookies`: Names with values.
* `Cookies.toJson`: The stored form.
* `Cookies.listing`: One line a cookie.
* `Cookies.jar`: One cookie jar line a cookie.
* `Cookies.readJar`: Reads cookie jar lines back.
-/

namespace BrokerClient

/-- Names with values in ascending order of the names. -/
abbrev Cookies := List (String × String)

namespace Cookies

/-- The document that stores cookies. -/
def toJson (cookies : Cookies) : Json :=
  .object (cookies.map fun cookie => (cookie.1, .string cookie.2))

/-- A line for every cookie. -/
def listing (cookies : Cookies) : String :=
  String.join (cookies.map fun cookie => cookie.1 ++ ": " ++ cookie.2 ++ "\n")

/-- The cookie jar line of a cookie: the host, whether its subdomains get the
    cookie, the path, whether the cookie is for secure connections only, when it
    ends, its name and its value. -/
def jarLine (hostname : String) (cookie : String × String) : String :=
  String.intercalate "\t" [hostname, "FALSE", "/", "TRUE", "0", cookie.1, cookie.2] ++ "\n"

/-- The cookie jar lines of cookies. -/
def jar (hostname : String) (cookies : Cookies) : String :=
  String.join (cookies.map (jarLine hostname))

/-- The name and the value in a cookie jar line, which has exactly seven
    fields. -/
def readJarLine (line : List Char) : Option (String × String) :=
  match splitAll '\t' line with
  | [_, _, _, _, _, name, value] => some (String.ofList name, String.ofList value)
  | _ => none

/-- The names and values in cookie jar lines, each of which ends with a line
    break. -/
def readJar (text : String) : Option Cookies :=
  let lines := splitAll '\n' text.toList
  if lines.getLast? = some [] then lines.dropLast.mapM readJarLine else none

end Cookies

end BrokerClient
