/-!
# Log Events

What the program reports about its own work, as data: the level, the part of
the program, a fixed message, and the values that belong to it. How events are
printed is not decided here.

## Main definitions

* `Log.Level`: How important an event is.
* `Log.Event`: An event.
-/

namespace BrokerClient

namespace Log

/-- How important an event is, from the least to the most. -/
inductive Level where
  | debug
  | info
  | warn
  deriving DecidableEq, Repr

/-- Something worth reporting, with named values in the order in which they are
    written. -/
structure Event where
  level : Level
  target : String
  message : String
  fields : List (String × String)
  /-- The wording of the error that is reported, if there was one. -/
  error : Option String
  deriving DecidableEq, Repr

end Log

end BrokerClient
