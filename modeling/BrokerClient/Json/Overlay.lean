import BrokerClient.Json.Value

/-!
# Overlaying JSON Documents

Settings come in layers. Where two layers hold objects, their fields are put
together; anything else in the upper layer hides what the lower one holds.

## Main definitions

* `Json.overlay`: One document over another.
* `Json.nest`: A document at the end of a path of keys.
-/

namespace BrokerClient

namespace Json

mutual

/-- One document over another. -/
def overlay (upper lower : Json) : Json :=
  match upper, lower with
  | .object fields, .object below => .object (overlayFields fields below)
  | upper, _ => upper

/-- The fields of one object over those of another. -/
def overlayFields (upper lower : List (String × Json)) : List (String × Json) :=
  match upper with
  | [] => lower
  | (key, value) :: others =>
    let merged := match KeyedList.lookup key lower with
      | some below => overlay value below
      | none => value
    overlayFields others (KeyedList.insert key merged lower)

end

/-- A document at the end of a path of keys. An empty key ends the path. -/
def nest : List String → Json → Json
  | [], value => value
  | key :: path, value => if key.isEmpty then value else .object [(key, nest path value)]

end Json

end BrokerClient
