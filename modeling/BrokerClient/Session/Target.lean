import BrokerClient.Json.Parser
import BrokerClient.StateDirectory

/-!
# Targets

The targets that servers were seen to offer. The inventory of a server is a
JSON document in one of two shapes: an object with an entry for every target
under its name, or an array of objects that hold the name in a field. Other
things in an array are skipped.

A target is known by its own name and by its full name, which starts with the
name of its server. Servers are given by their place in the session.

## Main definitions

* `Target`: A target of a server.
* `Inventory.targets`: The targets in a document.
* `Inventory.read`: The targets of a server in the state directory.

## Theorems

* `Inventory.targets_append`: Inventories of the second shape can be put together.
-/

namespace BrokerClient

/-- Something that a server offers for tests. -/
structure Target where
  name : String
  fullName : String
  /-- The place of its server in the session. -/
  broker : Nat
  disabled : Bool
  deriving DecidableEq, Repr

/-- The target of a server with a name. -/
def Target.create (name serverName : String) (broker : Nat) (disabled : Bool) : Target :=
  ⟨name, serverName ++ "/" ++ name, broker, disabled⟩

/-- Why an inventory cannot be used. -/
inductive InventoryError where
  | read (path : Path) (source : IoError)
  | parse (path : Path) (content : List UInt8) (flaw : Json.Flaw)

/-- The wording of an error. -/
def InventoryError.message : InventoryError → String
  | read path source =>
    "failed to read target inventory " ++ path.quoted ++ ": " ++ source.message
  | parse path content flaw =>
    "failed to parse target inventory " ++ path.quoted ++ ": " ++ flaw.message content

namespace Inventory

/-- An entry of an array: the name in an object and its fields. -/
def namedEntry? (item : Json) : Option (String × List (String × Json)) := do
  let fields ← item.fields?
  let name ← (← KeyedList.lookup "id" fields).text?
  some (name, fields)

/-- The names in a document with the fields that belong to each of them. An
    entry of an object need not be an object itself and has no fields then. -/
def entries : Json → List (String × List (String × Json))
  | .object fields => fields.map fun field => (field.1, field.2.fields?.getD [])
  | .array items => items.filterMap namedEntry?
  | _ => []

/-- Whether a target with some fields is disabled: there is a mark that is not
    `null`. -/
def isDisabled (fields : List (String × Json)) : Bool :=
  match KeyedList.lookup "disabled" fields with
  | some mark => !mark.isNull
  | none => false

/-- The targets in a document, given the name and the place of their server. -/
def targets (document : Json) (serverName : String) (broker : Nat) : List Target :=
  (entries document).map fun entry =>
    Target.create entry.1 serverName broker (isDisabled entry.2)

/-- The targets of a server in the state directory. A server without an
    inventory has none. -/
def read (directory : StateDirectory) (server : Server) (broker : Nat) :
    Action (Except InventoryError (List Target)) := do
  let path := directory.inventoryPath server
  match ← Action.readFile path with
  | .error e => return if e.isNotFound then .ok [] else .error (.read path e)
  | .ok content =>
    match Json.parse content with
    | .ok document => return .ok (targets document server.name broker)
    | .error flaw => return .error (.parse path content flaw)

theorem targets_append (items others : List Json) (serverName : String) (broker : Nat) :
    targets (.array (items ++ others)) serverName broker =
      targets (.array items) serverName broker ++ targets (.array others) serverName broker := by
  simp [targets, entries]

end Inventory

end BrokerClient
