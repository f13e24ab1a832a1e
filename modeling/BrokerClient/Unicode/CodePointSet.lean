/-!
# Sets of Code Points

A property of characters is a set of code points, and such a set is nearly
always a few hundred ranges. It is kept as the ascending list of code points
where membership changes: a code point belongs to the set when an odd number of
changes lies at or below it.

The tables of the library are written as text, as the distances between
consecutive changes. `CodePointSet.ofSteps` reads such a text.

## Main definitions

* `CodePointSet`: The changes of membership.
* `CodePointSet.contains`: Membership, by bisection.
* `CodePointSet.ofSteps`: Reads the distances between changes.
-/

namespace BrokerClient

/-- A set of code points as the ascending list of the places where membership
    changes. -/
structure CodePointSet where
  changes : Array Nat
  deriving Inhabited

namespace CodePointSet

/-- The number of changes at or below `n` among those from `low` up to `high`,
    given that all changes before `low` are at or below `n` and none from
    `high` on is. -/
private def rank (changes : Array Nat) (n low high : Nat) : Nat :=
  if h : low < high then
    let middle := (low + high) / 2
    if changes.getD middle 0 ≤ n then rank changes n (middle + 1) high
    else rank changes n low middle
  else low
termination_by high - low

/-- Whether a code point is in the set. -/
def contains (s : CodePointSet) (n : Nat) : Bool :=
  rank s.changes n 0 s.changes.size % 2 = 1

/-- The numbers of a text of decimal numbers separated by blanks. -/
def readNumbers (text : String) : List Nat :=
  let finish (number : Option Nat) (done : List Nat) :=
    match number with
    | some n => n :: done
    | none => done
  let step (state : Option Nat × List Nat) (c : Char) : Option Nat × List Nat :=
    if c.isDigit then
      (some ((state.1.getD 0) * 10 + (c.toNat - '0'.toNat)), state.2)
    else (none, finish state.1 state.2)
  let (number, done) := text.toList.foldl step (none, [])
  (finish number done).reverse

/-- The partial sums of a list of distances. -/
private def sums (start : Nat) : List Nat → List Nat
  | [] => []
  | d :: r => (start + d) :: sums (start + d) r

/-- The set whose changes lie at the given distances from each other, the
    first counted from zero. -/
def ofSteps (text : String) : CodePointSet :=
  ⟨(sums 0 (readNumbers text)).toArray⟩

end CodePointSet

end BrokerClient
