import BrokerClient.Host.Machine
import BrokerClient.Json.Value

/-!
# Command Results

What a command reports when it is done, in one of a few shapes, and the exit
status that follows from it. A shape that is not known counts as a failure and
is reported as such.

## Main definitions

* `CommandResult`: A result.
* `CommandResult.shape`: The name of its shape.
* `CommandResult.exitStatus`: The status that follows from it.
* `CommandResult.settle`: The status, with a warning if the shape is unknown.
* `exitCode`: The exit code of a status.
-/

namespace BrokerClient

/-- What a command reports when it is done. -/
inductive CommandResult where
  /-- The status of an answer from a server. -/
  | response (status : Nat)
  | boolean (value : Bool)
  | integer (value : Int)
  | mapping (fields : List (String × Json))
  | nothing
  /-- Something else, by the name of its shape. -/
  | other (shape : String)
  deriving Repr

namespace CommandResult

/-- The result of a command that failed. -/
def failure : CommandResult := boolean false

/-- The status of an answer that reports success. -/
def okStatus : Nat := 200

/-- The name of the shape. -/
def shape : CommandResult → String
  | response _ => "response"
  | boolean _ => "boolean"
  | integer _ => "integer"
  | mapping _ => "mapping"
  | nothing => "nothing"
  | other shape => shape

/-- The exit status that follows from a result. -/
def exitStatus : CommandResult → Int
  | response status => if status = okStatus then 0 else 1
  | boolean value => if value then 0 else 1
  | integer value => value
  | mapping _ | nothing => 0
  | other _ => 1

/-- The part of the program that events about commands name. -/
def logTarget : String := "tcf-cli::dispatch"

/-- The exit status that follows from a result. An unknown shape is
    reported. -/
def settle (result : CommandResult) : Action Int := do
  match result with
  | other shape =>
    Action.log .warn logTarget "unrecognised result shape, reporting failure" [("shape", shape)]
  | _ => pure ()
  return result.exitStatus

/-- The result that a document stands for. Numbers are results if they are
    integers of 64 bits with a sign. -/
def ofJson : Json → CommandResult
  | .null => nothing
  | .bool value => boolean value
  | .number (.integer value) => if value < Nat.pow 2 63 then integer value else other "float"
  | .number (.float _) => other "float"
  | .object fields => mapping fields
  | .string _ => other "string"
  | .array _ => other "array"

end CommandResult

/-- The exit code of a status: the status itself if it fits a byte, else the
    code of a failure. -/
def exitCode (status : Int) : UInt8 :=
  if 0 ≤ status && status < 256 then UInt8.ofNat status.toNat else 1

end BrokerClient
