import BrokerClient.Text.Splitting
import BrokerClient.Unicode.Alphanumeric
import BrokerClient.Unicode.Blank

/-!
# Log Filters

A filter is a list of directives between commas. A directive sets a level for a
target, for the spans of a name, for spans with certain fields, or for
everything:

    level        target        target=level        target[span]=level
    [span]=level        target[span{field=value}]=level

A directive is read character by character. Blanks around it are left out of
the reading, but a part is cut from the directive as it was written, at the
places counted from the first character that was read. A directive with
blanks in front therefore rarely means what it seems to mean.

## Main definitions

* `Log.Filter.Directive`: A directive.
* `Log.Filter.Level.parse?`: A level by name or number.
* `Log.Filter.parse`: Reads a filter.
-/

namespace BrokerClient

namespace Log

namespace Filter

/-- The least important level that passes. -/
inductive Level where
  | off
  | error
  | warn
  | info
  | debug
  | trace
  deriving DecidableEq, Repr

/-- Levels by name. -/
def Level.names : List (String × Level) :=
  [("error", .error), ("warn", .warn), ("info", .info), ("debug", .debug), ("trace", .trace),
    ("off", .off)]

/-- Levels by number, from zero. -/
def Level.numbered : List Level := [.off, .error, .warn, .info, .debug, .trace]

/-- A natural number below `2 ^ 64` in decimal digits, perhaps with a plus
    sign in front. -/
def readNumber? (cs : List Char) : Option Nat :=
  let digits := match cs with
    | '+' :: r => r
    | r => r
  if digits.isEmpty || !digits.all Char.isDigit then none
  else
    let n := digits.foldl (fun n c => n * 10 + (c.toNat - '0'.toNat)) 0
    if n < Nat.pow 2 64 then some n else none

/-- A level, by its number or by its name in any case. -/
def Level.parse? (cs : List Char) : Option Level :=
  match (readNumber? cs).bind fun n => Level.numbered[n]? with
  | some level => some level
  | none =>
    if cs.isEmpty then some .error
    else (Level.names.find? fun e => e.1.toList = cs.map Char.toLower).map Prod.snd

/-- What a directive selects, and the level for it. -/
structure Directive where
  target : Option String
  span : Option String
  fields : List String
  level : Level
  deriving DecidableEq, Repr

/-- Why a text is no filter. -/
inductive Flaw where
  | directive
  | level
  deriving DecidableEq, Repr

/-- The wording of a flaw. -/
def Flaw.message : Flaw → String
  | directive => "invalid filter directive"
  | level =>
    "error parsing level filter: expected one of \"off\", \"error\", \"warn\", \"info\", " ++
      "\"debug\", \"trace\", or a number 0-5"

/-- Where the reader stands in a directive, with the place where the current
    part began. -/
inductive State where
  | start
  | levelOrTarget
  | span (start : Nat)
  | field (start : Nat)
  | fields
  | target
  | level (start : Nat)

/-- The characters of a text between two places. -/
def cut (written : List Char) (start stop : Nat) : List Char :=
  (written.drop start).take (stop - start)

/-- The characters that may stand at the front of a directive, brackets
    apart. -/
def isFront (c : Char) : Bool := c = '-' || c = ':' || c = '_' || Unicode.isAlphanumeric c

/-- Reads the character at a place of a directive. -/
def step (written : List Char) (d : Directive) (state : State) (place : Nat) (c : Char) :
    Except Flaw (Directive × State) :=
  let part (start : Nat) : String := String.ofList (cut written start place)
  let withField (start : Nat) : Except Flaw Directive :=
    if (part start).isEmpty then .error .directive
    else .ok { d with fields := d.fields ++ [part start] }
  match state with
  | .start =>
    if c = '[' then .ok (d, .span (place + 1))
    else if isFront c then .ok (d, .levelOrTarget)
    else .error .directive
  | .levelOrTarget =>
    if c = '=' then .ok ({ d with target := some (part 0) }, .level (place + 1))
    else if c = '[' then .ok ({ d with target := some (part 0) }, .span (place + 1))
    else .ok (d, .levelOrTarget)
  | .span start =>
    if c = ']' then .ok ({ d with span := some (part start) }, .target)
    else if c = '\x7b' then
      let name := if (part start).isEmpty then none else some (part start)
      .ok ({ d with span := name }, .field (place + 1))
    else .ok (d, .span start)
  | .field start =>
    if c = '\x7d' then do .ok (← withField start, .fields)
    else .ok (d, .field start)
  | .fields => if c = ']' then .ok (d, .target) else .error .directive
  | .target => if c = '=' then .ok (d, .level (place + 1)) else .error .directive
  | .level start => .ok (d, .level start)

/-- Reads the characters of a directive from a place on. -/
def steps (written : List Char) (d : Directive) (state : State) :
    Nat → List Char → Except Flaw (Directive × State)
  | _, [] => .ok (d, state)
  | place, c :: r => do
    let (d, state) ← step written d state place c
    steps written d state (place + 1) r

/-- The directive that selects everything. -/
def Directive.everything : Directive := ⟨none, none, [], .trace⟩

/-- Reads a directive. What is neither a level nor followed by one is a target;
    an empty level lets everything pass. -/
def Directive.parse (written : List Char) : Except Flaw Directive := do
  let (d, state) ← steps written Directive.everything .start 0 (Unicode.trim written)
  match state with
  | .levelOrTarget =>
    match Level.parse? written with
    | some level => .ok { d with level }
    | none => .ok { d with target := some (String.ofList written) }
  | .level start =>
    let part := written.drop start
    if part.isEmpty then .ok d
    else
      match Level.parse? part with
      | some level => .ok { d with level }
      | none => .error .level
  | .target => .ok d
  | _ => .error .directive

/-- Reads a filter. Empty parts count for nothing. -/
def parse (text : String) : Except Flaw (List Directive) :=
  ((splitAll ',' text.toList).filter fun part => !part.isEmpty).mapM Directive.parse

end Filter

end Log

end BrokerClient
