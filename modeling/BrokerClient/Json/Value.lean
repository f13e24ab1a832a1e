import BrokerClient.KeyedList
import BrokerClient.Number.Binary64

/-!
# JSON Values

JSON documents as data. Numbers that are written as integers and fit 64 bits
are integers, all others are binary floating point. The fields of an object are
a keyed list: ascending, each key once.

## Main definitions

* `Json`: A document.
* `Json.Number`: An integer or a floating point number.
* `Json.fields?`, `Json.text?`: Views of a document as an object and as a text.
-/

namespace BrokerClient

/-- A number: an integer between `-2 ^ 63` and `2 ^ 64 - 1`, or a floating
    point number. -/
inductive Json.Number where
  | integer (value : Int)
  | float (value : Binary64)
  deriving DecidableEq, Repr

/-- A document. The fields of an object are in ascending order of their
    keys. -/
inductive Json where
  | null
  | bool (value : Bool)
  | number (value : Json.Number)
  | string (value : String)
  | array (items : List Json)
  | object (fields : List (String × Json))
  deriving Repr

namespace Json

instance : Inhabited Json := ⟨null⟩

/-- The integer document of a natural number. -/
def nat (n : Nat) : Json := number (.integer n)

/-- The document with the given fields, of which the last of each key
    counts. -/
def ofFields (fields : List (String × Json)) : Json := object (KeyedList.ofList fields)

/-- The fields, if the document is an object. -/
def fields? : Json → Option (List (String × Json))
  | object fields => some fields
  | _ => none

/-- The text, if the document is a string. -/
def text? : Json → Option String
  | string value => some value
  | _ => none

/-- Whether the document is `null`. -/
def isNull : Json → Bool
  | null => true
  | _ => false

/-- The value of a field, if the document is an object that has it. -/
def field? (key : String) (document : Json) : Option Json :=
  document.fields?.bind (KeyedList.lookup key)

end Json

end BrokerClient
