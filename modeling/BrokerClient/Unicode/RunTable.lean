import BrokerClient.Text.Splitting

/-!
# Tables of Runs

A property with values is a table of runs: consecutive code points with the
same kind of value. A table is written as a text of words, each a letter for
the kind, the number of code points, and further numbers that belong to the
kind, separated by colons. The runs follow each other from code point zero.

## Main definitions

* `RunTable.Run`: A run with its first code point.
* `RunTable.ofText`: Reads a table.
* `RunTable.lookup`: The run that a code point is in.
-/

namespace BrokerClient

/-- Consecutive code points with the same kind of value. -/
structure RunTable.Run where
  start : Nat
  kind : Char
  arguments : List Int
  deriving Inhabited, Repr

/-- Runs in ascending order, the first from code point zero. -/
structure RunTable where
  runs : Array RunTable.Run
  deriving Inhabited

namespace RunTable

/-- A decimal number with an optional minus sign. -/
def readInt (cs : List Char) : Int :=
  let value (ds : List Char) : Nat := ds.foldl (fun n c => n * 10 + (c.toNat - '0'.toNat)) 0
  match cs with
  | '-' :: ds => -(value ds : Int)
  | ds => (value ds : Int)

/-- Reads the words of a table, given the first code point of the first. -/
def readRuns (start : Nat) : List (List Char) → List Run
  | [] => []
  | [] :: rest => readRuns start rest
  | (kind :: numbers) :: rest =>
    match (splitAll ':' numbers).map readInt with
    | count :: arguments => ⟨start, kind, arguments⟩ :: readRuns (start + count.toNat) rest
    | [] => readRuns start rest

/-- The table that a text describes. Its words are separated by spaces and line
    breaks. -/
def ofText (text : String) : RunTable :=
  let spaced := text.toList.map fun c => if c = '\n' then ' ' else c
  ⟨(readRuns 0 (splitAll ' ' spaced)).toArray⟩

/-- The number of runs that start at or below `n`, among those from `low` up to
    `high`, given that all before `low` do and none from `high` on does. -/
private def rank (runs : Array Run) (n low high : Nat) : Nat :=
  if h : low < high then
    let middle := (low + high) / 2
    if (runs.getD middle default).start ≤ n then rank runs n (middle + 1) high
    else rank runs n low middle
  else low
termination_by high - low

/-- The run that a code point is in. -/
def lookup (t : RunTable) (n : Nat) : Run :=
  t.runs.getD (rank t.runs n 0 t.runs.size - 1) default

/-- The kind of the run that a code point is in. -/
def kindOf (t : RunTable) (c : Char) : Char := (t.lookup c.toNat).kind

end RunTable

end BrokerClient
