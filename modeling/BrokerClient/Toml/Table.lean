import BrokerClient.Json.Value

/-!
# TOML Tables

A TOML document builds one tree of tables, line by line. A table comes into
being in one of three ways: under a header of its own, as a step on the path of
another table's header, or as a step of a dotted key. How it came into being
says what may still be added to it: no table has two headers, and dotted keys
only go through tables that dotted keys made, or that are still without a
header.

A header with double brackets adds a table to a list. A path that goes through
such a list goes through its last table.

## Main definitions

* `Toml.Origin`: How a table came into being.
* `Toml.Node`: A value, a table, or a list of tables.
* `Toml.changeAt`: Changes the table at the end of a path.
* `Toml.assign`: Gives a key a value.
* `Toml.openTable`, `Toml.openElement`: What the two kinds of headers do.
* `Toml.Node.toJson`: A tree as a document.
-/

namespace BrokerClient

namespace Toml

/-- How a table came into being: under its header, or as a step on the path of
    a header or of a dotted key. -/
inductive Origin where
  | header
  | path
  | dotted
  deriving DecidableEq, Repr

/-- A value, a table with its entries, or a list of tables. -/
inductive Node where
  | value (value : Json)
  | table (origin : Origin) (entries : List (String × Node))
  | tables (items : List (List (String × Node)))

/-- The entries of a table. -/
abbrev Entries := List (String × Node)

/-- Changes the table at the end of a path that starts at a table with an
    origin. Tables that are missing on the path are made with the given origin.
    A dotted key does not go through a table that has a header. -/
def changeAt (step : Origin) (change : Origin → Entries → Option Entries) (here : Origin) :
    List String → Entries → Option Entries
  | [], entries => change here entries
  | key :: path, entries =>
    match KeyedList.lookup key entries with
    | none =>
      (changeAt step change step path []).map fun inner =>
        KeyedList.insert key (.table step inner) entries
    | some (.value _) => none
    | some (.table origin inner) =>
      if step = .dotted && origin = .header then none
      else
        (changeAt step change origin path inner).map fun inner =>
          KeyedList.insert key (.table origin inner) entries
    | some (.tables items) =>
      match items.getLast? with
      | none => none
      | some last =>
        (changeAt step change .header path last).map fun last =>
          KeyedList.insert key (.tables (items.dropLast ++ [last])) entries

/-- Gives a key a value in a table, behind a path of dotted keys. The key must
    be new, and a path must end at a table that dotted keys made. -/
def assign (path : List String) (key : String) (value : Json) (entries : Entries) :
    Option Entries :=
  changeAt .dotted (fun origin entries =>
    if path.isEmpty = decide (origin = .dotted) then none
    else if (KeyedList.lookup key entries).isSome then none
    else some (KeyedList.insert key (.value value) entries)) .header path entries

/-- Opens the table under a header, given the path and the last key of the
    header. The table may be there already if it was only a step on a path. -/
def openTable (path : List String) (key : String) (root : Entries) : Option Entries :=
  changeAt .path (fun _ entries =>
    match KeyedList.lookup key entries with
    | none => some (KeyedList.insert key (.table .header []) entries)
    | some (.table .path inner) => some (KeyedList.insert key (.table .header inner) entries)
    | some _ => none) .header path root

/-- Opens a new table in the list under a header with double brackets. -/
def openElement (path : List String) (key : String) (root : Entries) : Option Entries :=
  changeAt .path (fun _ entries =>
    match KeyedList.lookup key entries with
    | none => some (KeyedList.insert key (.tables [[]]) entries)
    | some (.tables items) => some (KeyedList.insert key (.tables (items ++ [[]])) entries)
    | some _ => none) .header path root

/-! ## Documents -/

mutual

/-- The document that a node is. -/
def Node.toJson : Node → Json
  | .value value => value
  | .table _ entries => .object (entriesToJson entries)
  | .tables items => .array (itemsToJson items)

/-- The fields that entries are. -/
def entriesToJson : List (String × Node) → List (String × Json)
  | [] => []
  | (key, node) :: others => (key, node.toJson) :: entriesToJson others

/-- The objects that a list of tables is. -/
def itemsToJson : List (List (String × Node)) → List Json
  | [] => []
  | entries :: others => .object (entriesToJson entries) :: itemsToJson others

end

end Toml

end BrokerClient
