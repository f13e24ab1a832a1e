/-!
# Log Formats

The two ways in which events are printed. Flags name them in any case, files and
environment variables only in lower case.

## Main definitions

* `Log.Format`: The formats.
* `Log.Format.parse?`: A format by its name in any case.
* `Log.Format.ofName?`: A format by its exact name.
-/

namespace BrokerClient

namespace Log

/-- How events are printed. -/
inductive Format where
  | compact
  | json
  deriving DecidableEq, Repr, Inhabited

namespace Format

/-- The name of a format. -/
def name : Format → String
  | compact => "compact"
  | json => "json"

/-- All formats. -/
def all : List Format := [compact, json]

/-- The wording for a text that names no format. -/
def unknownMessage : String := "Matching variant not found"

/-- The format with an exact name. -/
def ofName? (text : String) : Option Format := all.find? fun f => f.name = text

/-- The format with a name, in which the case of the letters from `A` to `Z`
    does not count. -/
def parse? (text : String) : Option Format := ofName? (String.ofList (text.toList.map Char.toLower))

theorem ofName?_name (f : Format) : ofName? f.name = some f := by
  cases f <;> rfl

end Format

end Log

end BrokerClient
