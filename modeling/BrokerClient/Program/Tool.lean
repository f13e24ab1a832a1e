import BrokerClient.Host.Machine
import BrokerClient.Number.Decimal

/-!
# Tools

Small programs of which every system has a few: they print, read, test and
remove. A tool gets its input as a whole, writes to the output of commands, and
ends with a status. What it would write for an error is left out.

Only the command line and tests reach the tools, as programs that they launch
or that a script names.

## Main definitions

* `Tool`: A small program.
* `Tool.echo`, `Tool.printf`, `Tool.cat`, `Tool.ls`, `Tool.rm`, `Tool.test`, ...: The tools.
* `Tool.named?`: A tool by its name.
-/

namespace BrokerClient

/-- Writes to the output of commands. -/
def Action.emit (bytes : List UInt8) : Action Unit :=
  modify fun m => { m with commandOutput := m.commandOutput ++ bytes }

/-- A small program, given its input and its arguments. -/
abbrev Tool := List UInt8 → List OsText → Action Nat

namespace Tool

/-- The byte of a character of one byte. -/
def byte (c : Char) : UInt8 := UInt8.ofNat c.toNat

/-- A tool that does nothing but end with a status. -/
def ending (status : Nat) : Tool := fun _ _ => return status

/-! ## Printing -/

/-- The byte that a letter behind a backslash stands for. -/
def escaped? (b : UInt8) : Option UInt8 :=
  (([('n', 10), ('t', 9), ('r', 13), ('a', 7), ('b', 8), ('f', 12), ('v', 11), ('\\', 0x5C)] :
    List (Char × UInt8)).find? fun e => byte e.1 = b).map Prod.snd

/-- Whether a byte is a digit of base eight. -/
def isOctal (b : UInt8) : Bool := 0x30 ≤ b && b ≤ 0x37

/-- The byte that digits of base eight write. -/
def octalByte (digits : List UInt8) : UInt8 :=
  UInt8.ofNat (digits.foldl (fun n b => n * 8 + (b.toNat - 0x30)) 0)

/-- A text with its escapes replaced. -/
def unescape (s : List UInt8) : List UInt8 :=
  match s with
  | [] => []
  | b :: r =>
    if b ≠ 0x5C then b :: unescape r
    else
      match r with
      | [] => [b]
      | c :: rest =>
        let digits := ((c :: rest).take 3).takeWhile isOctal
        if 0 < digits.length then octalByte digits :: unescape ((c :: rest).drop digits.length)
        else
          match escaped? c with
          | some value => value :: unescape rest
          | none => b :: c :: unescape rest
termination_by s.length
decreasing_by
  all_goals simp only [List.length_drop, List.length_cons]
  all_goals omega

/-- Prints the arguments on a line. -/
def echo (escapes : Bool) : Tool := fun _ arguments => do
  let (newline, shown) : List UInt8 × List OsText := match arguments with
    | first :: rest => if first = OsText.ofString "-n" then ([], rest) else ([0x0A], arguments)
    | [] => ([0x0A], [])
  let line := List.intercalate [0x20] (shown.map OsText.bytes)
  Action.emit ((if escapes then unescape line else line) ++ newline)
  return 0

/-- A part of a format: bytes that are printed, or the letter of a conversion
    of an argument. -/
inductive FormatPart where
  | bytes (bytes : List UInt8)
  | conversion (letter : UInt8)

/-- The parts of a format. -/
def formatParts : List UInt8 → List FormatPart
  | 0x25 :: 0x25 :: r => .bytes [0x25] :: formatParts r
  | 0x25 :: letter :: r => .conversion letter :: formatParts r
  | b :: r => .bytes [b] :: formatParts r
  | [] => []

/-- What a conversion prints for an argument, or for none. -/
def convert (letter : UInt8) (argument : Option OsText) : List UInt8 :=
  let value := (argument.getD .empty).bytes
  if letter = byte 's' then value
  else if letter = byte 'b' then unescape value
  else if letter = byte 'c' then value.take 1
  else
    let (negative, digits) := Decimal.readSign ((argument.getD .empty).shownChars)
    let n := (Digits.number? 10 digits).getD 0
    Utf8.encode ((if negative && n ≠ 0 then ['-'] else []) ++ Nat.toDigits 10 n)

/-- Prints by a format once, and returns the arguments that are left. -/
def printParts : List FormatPart → List OsText → List UInt8 × List OsText
  | [], arguments => ([], arguments)
  | .bytes bytes :: parts, arguments =>
    let (rest, left) := printParts parts arguments
    (bytes ++ rest, left)
  | .conversion letter :: parts, arguments =>
    let (rest, left) := printParts parts (arguments.drop 1)
    (convert letter arguments.head? ++ rest, left)

/-- Prints by a format as often as there are arguments left, but once at
    least. -/
def printAll (parts : List FormatPart) (arguments : List OsText) : List UInt8 :=
  let (printed, left) := printParts parts arguments
  if left.length < arguments.length then
    if left.isEmpty then printed else printed ++ printAll parts left
  else printed
termination_by arguments.length

/-- Prints arguments by a format. -/
def printf : Tool := fun _ arguments => do
  match arguments with
  | [] => return 2
  | format :: rest =>
    Action.emit (printAll (formatParts (unescape format.bytes)) rest)
    return 0

/-- Prints the variables of the environment. -/
def env : Tool := fun _ _ => do
  for v in (← get).environment.bindings do
    Action.emit (v.1.bytes ++ 0x3D :: v.2.bytes ++ [0x0A])
  return 0

/-- Prints the values of variables. -/
def printenv : Tool := fun input arguments => do
  if arguments.isEmpty then env input arguments
  else
    let mut status := 0
    for name in arguments do
      match (← get).environment.get? name with
      | some value => Action.emit (value.bytes ++ [0x0A])
      | none => status := 1
    return status

/-- Prints the working directory. -/
def pwd : Tool := fun _ _ => do
  Action.emit ((Place.path (← get).workDirectory).bytes ++ [0x0A])
  return 0

/-! ## Files -/

/-- Prints files one after the other, or the input. -/
def cat : Tool := fun input arguments => do
  if arguments.isEmpty then
    Action.emit input
    return 0
  else
    let mut status := 0
    for p in arguments do
      if p = OsText.ofString "-" then Action.emit input
      else
        match ← Action.readFile p with
        | .ok content => Action.emit content
        | .error _ => status := 1
    return status

/-- Whether an argument is an option with a letter. -/
def isOption (argument : OsText) (letter : Char) : Bool :=
  match argument.bytes with
  | 0x2D :: letters => letters.contains (byte letter)
  | _ => false

/-- Whether an argument looks like an option. -/
def looksLikeOption (argument : OsText) : Bool :=
  argument.bytes.head? = some 0x2D && 1 < argument.bytes.length

/-- Removes files, and directories if that is asked for. -/
def rm : Tool := fun _ arguments => do
  let options := arguments.filter looksLikeOption
  let mut status := 0
  for p in arguments.filter fun a => !looksLikeOption a do
    match ← Action.removeFile p with
    | .ok () => pure ()
    | .error e =>
      let m ← get
      match m.files.locate m.workDirectory p with
      | .ok place =>
        -- A directory goes only with everything below it.
        if options.any (isOption · 'r') then set { m with files := m.files.eraseAll place }
        else status := 1
      | .error _ => if !(e.isNotFound && options.any (isOption · 'f')) then status := 1
  return status

/-- Makes empty files. -/
def touch : Tool := fun _ arguments => do
  let mut status := 0
  for p in arguments do
    let m ← get
    if !m.files.pathExists m.workDirectory p then
      match m.files.create m.workDirectory p [] 0o644 with
      | .ok (files, _) => set { m with files }
      | .error _ => status := 1
  return status

/-- Makes directories. -/
def mkdir : Tool := fun _ arguments => do
  let parents := arguments.any fun a => looksLikeOption a && isOption a 'p'
  let mut status := 0
  for p in arguments.filter fun a => !looksLikeOption a do
    let made ←
      if parents then Action.makeDirectories p 0o755
      else Action.changeFiles fun files work => files.makeDirectory work p 0o755
    if made.toOption.isNone then status := 1
  return status

/-- Lists the names in directories, and files. Names that start with a dot are
    left out. -/
def ls : Tool := fun _ arguments => do
  let m ← get
  let paths := arguments.filter fun a => !looksLikeOption a
  let mut status := 0
  for p in if paths.isEmpty then [Place.path m.workDirectory] else paths do
    match m.files.locate m.workDirectory p with
    | .error _ => status := 2
    | .ok place =>
      if !m.files.isDirectoryAt place then Action.emit (p.bytes ++ [0x0A])
      else
        for (names, _) in m.files.below place do
          match names with
          | [name] =>
            if name.bytes.head? ≠ some 0x2E then Action.emit (name.bytes ++ [0x0A])
          | _ => pure ()
  return status

/-! ## Tests -/

/-- Whether a test with one operand holds. -/
def testOne (m : Machine) (operator operand : OsText) : Option Bool :=
  let node := m.files.stat? m.workDirectory operand
  match operator.text? with
  | some "-n" => some (!operand.isEmpty)
  | some "-z" => some operand.isEmpty
  | some "-e" | some "-r" | some "-w" => some node.isSome
  | some "-f" => some (m.files.isFile m.workDirectory operand)
  | some "-d" => some (m.files.isDirectory m.workDirectory operand)
  | some "-s" =>
    match node with
    | some (.file content _) => some (!content.isEmpty)
    | some (.directory _) => some true
    | none => some false
  | _ => none

/-- Whether a test with two operands holds. -/
def testTwo (left operator right : OsText) : Option Bool := do
  let operator ← operator.text?
  if operator = "=" || operator = "==" then some (left = right)
  else if operator = "!=" then some (left ≠ right)
  else
    let number (t : OsText) : Option Nat := t.chars?.bind (Digits.number? 10)
    let a ← number left
    let b ← number right
    match operator with
    | "-eq" => some (a = b)
    | "-ne" => some (a ≠ b)
    | "-lt" => some (a < b)
    | "-le" => some (a ≤ b)
    | "-gt" => some (b < a)
    | "-ge" => some (b ≤ a)
    | _ => none

/-- Whether a test holds, if it makes sense. -/
def testHolds (m : Machine) : List OsText → Option Bool
  | [] => some false
  | [word] => some (!word.isEmpty)
  | [first, second] =>
    if first = OsText.ofString "!" then some second.isEmpty else testOne m first second
  | [first, second, third] =>
    if first = OsText.ofString "!" then (testOne m second third).map not
    else testTwo first second third
  | first :: rest => if first = OsText.ofString "!" then (testHolds m rest).map not else none

/-- Tests texts, numbers and files. -/
def test : Tool := fun _ arguments => do
  match testHolds (← get) arguments with
  | some true => return 0
  | some false => return 1
  | none => return 2

/-- Tests with a bracket behind the arguments. -/
def bracket : Tool := fun input arguments => do
  if arguments.getLast? = some (OsText.ofString "]") then test input arguments.dropLast
  else return 2

/-- A tool by its name. -/
def named? (name : OsText) : Option Tool :=
  match name.text? with
  | some "true" => some (ending 0)
  | some "false" => some (ending 1)
  | some "sleep" => some (ending 0)
  | some "echo" => some (echo false)
  | some "printf" => some printf
  | some "env" => some env
  | some "printenv" => some printenv
  | some "pwd" => some pwd
  | some "cat" => some cat
  | some "ls" => some ls
  | some "rm" => some rm
  | some "touch" => some touch
  | some "mkdir" => some mkdir
  | some "test" => some test
  | some "[" => some bracket
  | _ => none

end Tool

end BrokerClient
