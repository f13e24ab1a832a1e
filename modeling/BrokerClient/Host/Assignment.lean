import BrokerClient.Host.Machine
import BrokerClient.Text.Splitting
import BrokerClient.Unicode.Blank

/-!
# Environment Assignments

Texts of the form `KEY=VALUE` that set a variable for the commands that are
run. A bare `KEY` stands for the value `true`. The name is trimmed, the value is
taken as it is.

A list of assignments is applied as a whole: all of them are read before the
first is applied, so a malformed one leaves the environment alone.

## Main definitions

* `Assignment`: A variable and its value.
* `Assignment.parse`: Reads an assignment.
* `Assignment.apply`: The environment after an assignment.
* `Assignment.inject`: Reads and applies a list of assignments.
-/

namespace BrokerClient

/-- A variable and its value. -/
structure Assignment where
  key : List Char
  value : List Char
  deriving DecidableEq, Repr

/-- Why a text is no assignment. The text is kept for the message. -/
inductive AssignmentError where
  | missingKey (text : String)
  | invalidCharacter (text : String)
  deriving DecidableEq, Repr

/-- The wording of an error. -/
def AssignmentError.message : AssignmentError → String
  | missingKey text => "invalid environment assignment '" ++ text ++ "': missing variable name"
  | invalidCharacter text =>
    "invalid environment assignment '" ++ text ++ "': names and values must not contain NUL"

namespace Assignment

/-- The value of a variable that is only named. -/
def bareValue : List Char := "true".toList

/-- Reads an assignment. -/
def parse (text : String) : Except AssignmentError Assignment :=
  let (front, value) := (splitOnce '=' text.toList).getD (text.toList, bareValue)
  let key := Unicode.trim front
  if key.isEmpty then .error (.missingKey text)
  else if key.contains '\x00' || value.contains '\x00' then .error (.invalidCharacter text)
  else .ok ⟨key, value⟩

/-- The environment after an assignment. -/
def apply (environment : Environment) (a : Assignment) : Environment :=
  environment.set (.ofChars a.key) (.ofChars a.value)

/-- The environment after assignments in order. -/
def applyAll (environment : Environment) (assignments : List Assignment) : Environment :=
  assignments.foldl apply environment

/-- The part of the program that events about assignments name. -/
def logTarget : String := "tcf-cli::environment"

/-- Applies one assignment to the environment of the process and reports
    it. -/
def applyLogged (a : Assignment) : Action Unit := do
  Action.log .debug logTarget "setting environment variable"
    [("key", String.ofList a.key), ("value", String.ofList a.value)]
  modify fun m => { m with environment := apply m.environment a }

/-- Reads all assignments, and applies them in order if each is well formed.
    The first error in the list counts. -/
def inject (texts : List String) : Action (Except AssignmentError Unit) := do
  match texts.mapM parse with
  | .error e => return .error e
  | .ok assignments =>
    assignments.forM applyLogged
    return .ok ()

end Assignment

end BrokerClient
