import BrokerClient.Options.Help

/-!
# Reading Command Lines

The arguments are read from the first to the last, and the first error counts.
An option or a positional argument is settled, which means that its values are
checked, not when its last value is read but when the next option begins or the
arguments end. So of two faults in one command line the later one in the text
can be the one that is reported.

A double hyphen makes all arguments behind it positional. A word that names a
command ends the reading: what follows belongs to the command and is read
before what is pending in front of the command is settled.

## Main definitions

* `Options.Matches`: What was found.
* `Options.Outcome`: How far the reader came, and a command with its arguments.
* `Options.Grammar.read`: Reads arguments.
* `Options.Grammar.validate`: Checks what only the whole command line shows.
* `Options.Grammar.finish`: Settles what is pending and checks the whole.
-/

namespace BrokerClient

namespace Options

/-- The options that were given, in their order, and the positional
    arguments. -/
structure Matches where
  /-- The long names with their values. -/
  found : List (String × List OsText)
  values : List OsText
  deriving DecidableEq, Repr

namespace Matches

/-- What was found before the first argument. -/
def empty : Matches := ⟨[], []⟩

/-- Whether an option was given. -/
def has (m : Matches) (long : String) : Bool := m.found.any fun f => f.1 = long

/-- The values of an option in their order. -/
def valuesOf (m : Matches) (long : String) : List OsText :=
  (m.found.filter fun f => f.1 = long).flatMap Prod.snd

/-- The texts among the values of an option. -/
def textsOf (m : Matches) (long : String) : List String :=
  (m.valuesOf long).filterMap OsText.text?

end Matches

/-- What was begun and is not settled yet. -/
inductive Pending where
  | nothing
  /-- An option that still needs its value. -/
  | awaiting (option : Spec)
  /-- An option with its value. -/
  | option (option : Spec) (value : OsText)
  /-- Positional arguments. -/
  | positional (values : List OsText)

/-- The state of the reader: what was settled, what is pending, and whether all
    further arguments are positional. -/
structure Progress where
  settled : Matches
  pending : Pending
  trailing : Bool

/-- How far the reader came, and the command with the arguments behind it. -/
structure Outcome where
  progress : Progress
  command : Option (String × List OsText)

namespace Grammar

/-- The error for a value of an option. -/
def valueError (shown : String) (value : OsText) : Fault → Error
  | .notText => .notText
  | .missing => .missingValue shown
  | .invalid => .invalidValue value.shown shown

/-- Checks values in their order. -/
def checkValues (check : OsText → Option Fault) (shown : String) (values : List OsText) :
    Except Error Unit :=
  match values.findSome? fun v => (check v).map fun fault => (v, fault) with
  | some (v, fault) => .error (valueError shown v fault)
  | none => .ok ()

/-- Settles an option with its values. -/
def settleOption (g : Grammar) (calledAs : String) (m : Matches) (s : Spec)
    (values : List OsText) : Except Error Matches := do
  match s.role with
  | .help => .error (.help (g.help calledAs))
  | .version => .error (.version g.version)
  | _ =>
    if m.has s.long && !s.repeatable then .error (.repeated s.shown)
    else do
      checkValues s.check s.shown values
      .ok { m with found := m.found ++ [(s.long, values)] }

/-- Settles what is pending. -/
def settle (g : Grammar) (calledAs : String) (p : Progress) : Except Error Matches :=
  match p.pending with
  | .nothing => .ok p.settled
  | .awaiting s => .error (.missingValue s.shown)
  | .option s value => g.settleOption calledAs p.settled s [value]
  | .positional values => do
    match g.positional with
    | some q => checkValues q.check q.display values
    | none => pure ()
    .ok { p.settled with values := p.settled.values ++ values }

/-- Settles what is pending and an option with its values. -/
def settleBoth (g : Grammar) (calledAs : String) (p : Progress) (s : Spec)
    (values : List OsText) : Except Error Progress := do
  let m ← g.settle calledAs p
  .ok { p with settled := ← g.settleOption calledAs m s values, pending := .nothing }

/-- Begins an option whose value, if it has one here, stands in the same
    argument. -/
def beginOption (g : Grammar) (calledAs : String) (p : Progress) (s : Spec)
    (inlineValue : Option OsText) : Except Error Progress := do
  match s.role, inlineValue with
  | .inlineValue _ default, none => g.settleBoth calledAs p s [default]
  | _, some value => g.settleBoth calledAs p s [value]
  | _, none => .ok { p with settled := ← g.settle calledAs p, pending := .awaiting s }

/-- Whether an option takes a value. -/
def takesValue (s : Spec) : Bool :=
  match s.role with
  | .value _ | .inlineValue _ _ => true
  | _ => false

/-- Whether the next positional argument may look like an option. -/
def allowsHyphens (g : Grammar) : Bool := (g.positional.map Positional.takesRest).getD false

/-- The name and the value of a long option, given what follows its hyphens. -/
def splitLong (body : List UInt8) : OsText × Option OsText :=
  let name := body.takeWhile (· ≠ 0x3D)
  if name.length = body.length then (⟨name⟩, none)
  else (⟨name⟩, some ⟨body.drop (name.length + 1)⟩)

/-- Reads a long option, given what follows its hyphens. There is no result if
    it is to be read as a positional argument. -/
def readLong (g : Grammar) (calledAs : String) (p : Progress) (body : List UInt8) :
    Except Error (Option Progress) := do
  let (name, value) := splitLong body
  match name.chars? with
  | none => .error (.unexpected ("--" ++ name.shown))
  | some cs =>
    match g.long? cs with
    | some s =>
      if takesValue s then return some (← g.beginOption calledAs p s value)
      else
        match value with
        | some v => .error (.unneededValue v.shown s.shown)
        | none => return some (← g.settleBoth calledAs p s [])
    | none => if g.allowsHyphens then return none else .error (.unexpected ("--" ++ name.shown))

/-- The value that stands behind the letter of an option in the same
    argument. An equals sign in front is left out. An inline value needs that
    sign. -/
def shortValue (s : Spec) (rest : List Utf8.Piece) : Option OsText :=
  let bytes := rest.flatMap Utf8.Piece.bytes
  match bytes with
  | [] => none
  | 0x3D :: value => some ⟨value⟩
  | bytes =>
    match s.role with
    | .inlineValue _ _ => none
    | _ => some ⟨bytes⟩

/-- Reads the letters of short options. An option with a value takes all that
    follows it. -/
def readLetters (g : Grammar) (calledAs : String) (p : Progress) :
    List Utf8.Piece → Except Error Progress
  | [] => .ok p
  | .broken bytes :: rest =>
    .error (.unexpected ("-" ++ (⟨bytes ++ rest.flatMap Utf8.Piece.bytes⟩ : OsText).shown))
  | .char c :: rest => do
    match g.short? c with
    | none => .error (.unexpected ("-" ++ c.toString))
    | some s =>
      if takesValue s then g.beginOption calledAs p s (shortValue s rest)
      else g.readLetters calledAs (← g.settleBoth calledAs p s []) rest

/-- Whether a piece is the letter of an option. -/
def isKnownLetter (g : Grammar) : Utf8.Piece → Bool
  | .char c => (g.short? c).isSome
  | .broken _ => false

/-- Reads short options, given what follows the hyphen. There is no result if
    they are to be read as a positional argument. -/
def readShort (g : Grammar) (calledAs : String) (p : Progress) (body : List UInt8) :
    Except Error (Option Progress) := do
  let pieces := Utf8.pieces body
  -- One letter that is no option makes the whole argument positional.
  if g.allowsHyphens && pieces.any (fun piece => !g.isKnownLetter piece) then return none
  else return some (← g.readLetters calledAs p pieces)

/-- Reads an option. There is no result if the argument is none. -/
def readOption (g : Grammar) (calledAs : String) (p : Progress) (argument : OsText) :
    Except Error (Option Progress) :=
  match argument.bytes with
  | 0x2D :: 0x2D :: body => g.readLong calledAs p body
  | [0x2D] => .ok none
  | 0x2D :: body => g.readShort calledAs p body
  | _ => .ok none

/-- Whether a positional argument was read already. -/
def Progress.hasPositional (p : Progress) : Bool :=
  match p.pending with
  | .positional _ => true
  | _ => !p.settled.values.isEmpty

/-- Reads a positional argument. -/
def readPositional (g : Grammar) (calledAs : String) (p : Progress) (argument : OsText) :
    Except Error Progress := do
  match g.positional with
  | some q =>
    if q.many || !Progress.hasPositional p then
      let trailing := p.trailing || q.takesRest
      match p.pending with
      | .positional values =>
        .ok { p with pending := .positional (values ++ [argument]), trailing }
      | _ =>
        .ok { settled := ← g.settle calledAs p, pending := .positional [argument], trailing }
    else .error (.unexpected argument.shown)
  | none =>
    if g.commands.isEmpty then .error (.unexpected argument.shown)
    -- Behind a double hyphen the name of a command asks for nothing.
    else if p.trailing && (g.command? argument).isSome then .error (.unexpected argument.shown)
    else .error (.unknownCommand argument.shown)

/-- Whether an option still needs its value. -/
def isAwaiting (p : Progress) : Bool :=
  match p.pending with
  | .awaiting _ => true
  | _ => false

/-- The command that an argument asks for, where a command may stand. -/
def commandHere? (g : Grammar) (p : Progress) (argument : OsText) : Option String :=
  if p.trailing || isAwaiting p then none else g.command? argument

/-- Reads an argument that asks for no command. -/
def step (g : Grammar) (calledAs : String) (p : Progress) (argument : OsText) :
    Except Error Progress := do
  if p.trailing then g.readPositional calledAs p argument
  -- An option that needs a value will not get it any more.
  else if argument = OsText.ofString "--" then .ok { p with trailing := true }
  else
    match ← g.readOption calledAs p argument with
    | some p => .ok p
    | none =>
      match p.pending with
      | .awaiting s => .ok { p with pending := .option s argument }
      | _ => g.readPositional calledAs p argument

/-- Reads arguments up to the first command. -/
def readFrom (g : Grammar) (calledAs : String) (p : Progress) :
    List OsText → Except Error Outcome
  | [] => .ok ⟨p, none⟩
  | argument :: rest => do
    match g.commandHere? p argument with
    | some name => .ok ⟨p, some (name, rest)⟩
    | none => g.readFrom calledAs (← g.step calledAs p argument) rest

/-- Reads arguments. -/
def read (g : Grammar) (calledAs : String) (arguments : List OsText) : Except Error Outcome :=
  g.readFrom calledAs ⟨.empty, .nothing, false⟩ arguments

/-- The first option that was given together with one that excludes it or that
    it excludes, and the other one. -/
def conflict? (g : Grammar) (m : Matches) : Option (Spec × Spec) :=
  m.found.findSome? fun f => do
    let s ← g.long? f.1.toList
    let t ← g.options.find? fun t =>
      m.has t.long && (s.excludes = some t.long || t.excludes = some s.long)
    some (s, t)

/-- Checks what only the whole command line shows: options that exclude each
    other, and positional arguments that are missing. -/
def validate (g : Grammar) (m : Matches) : Except Error Unit :=
  match g.conflict? m with
  | some (s, t) => .error (.excluded s.shown t.shown)
  | none =>
    match g.positional with
    | some q =>
      if q.required && m.values.isEmpty then .error (.missingArguments [q.display]) else .ok ()
    | none => .ok ()

/-- What was found when everything is settled, if the whole of it is
    accepted. -/
def finish (g : Grammar) (calledAs : String) (p : Progress) : Except Error Matches := do
  let m ← g.settle calledAs p
  g.validate m
  return m

end Grammar

end Options

end BrokerClient
