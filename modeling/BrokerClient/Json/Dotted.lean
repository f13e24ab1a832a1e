import BrokerClient.Json.Printer

/-!
# Dotted Listings

A document as lines, one for each leaf: the keys and indices that lead to the
leaf, with dots between them, a colon, and the text of the leaf. A leaf that is
`null` has no text. Empty arrays and objects have no leaves.

A key is put behind the path so far with a dot, except that an empty path is
replaced by the key. So an empty key at the outside leaves no trace.

## Main definitions

* `Json.dotted`: The listing of a document.
* `Json.leaves`: The leaves of a document with the ways to them.
-/

namespace BrokerClient

namespace Json

/-- A path with one more step. -/
def extendPath (path key : String) : String := if path.isEmpty then key else path ++ "." ++ key

/-- The line of a leaf. -/
def leafLine (path : String) (text : Option String) : String :=
  match text with
  | some text => path ++ ": " ++ text ++ "\n"
  | none => path ++ ":\n"

/-- The text of a document that is no array and no object; none for `null`. -/
def leafText? : Json → Option String
  | .string text => some text
  | .bool b => some (if b then "true" else "false")
  | .number n => some n.text
  | _ => none

mutual

/-- The lines of a document below a path. -/
def dottedBelow (path : String) : Json → String
  | .object fields => dottedFields path fields
  | .array items => dottedItems path 0 items
  | leaf => leafLine path (leafText? leaf)

/-- The lines of the items of an array from an index on. -/
def dottedItems (path : String) (index : Nat) : List Json → String
  | [] => ""
  | item :: items =>
    dottedBelow (extendPath path (toString index)) item ++ dottedItems path (index + 1) items

/-- The lines of the fields of an object. -/
def dottedFields (path : String) : List (String × Json) → String
  | [] => ""
  | (key, value) :: fields =>
    dottedBelow (extendPath path key) value ++ dottedFields path fields

end

/-- The lines of a document. -/
def dotted (document : Json) : String := dottedBelow "" document

/-! ## Leaves -/

/-- A leaf: the steps that lead to it and its text. -/
structure Leaf where
  steps : List String
  text : Option String
  deriving DecidableEq, Repr

/-- A leaf seen from one step further up. -/
def Leaf.below (step : String) (leaf : Leaf) : Leaf := { leaf with steps := step :: leaf.steps }

mutual

/-- The leaves of a document from left to right. -/
def leaves : Json → List Leaf
  | .object fields => leavesOfFields fields
  | .array items => leavesOfItems 0 items
  | leaf => [⟨[], leafText? leaf⟩]

/-- The leaves of the items of an array from an index on. -/
def leavesOfItems (index : Nat) : List Json → List Leaf
  | [] => []
  | item :: items =>
    (leaves item).map (Leaf.below (toString index)) ++ leavesOfItems (index + 1) items

/-- The leaves of the fields of an object. -/
def leavesOfFields : List (String × Json) → List Leaf
  | [] => []
  | (key, value) :: fields => (leaves value).map (Leaf.below key) ++ leavesOfFields fields

end

end Json

end BrokerClient
