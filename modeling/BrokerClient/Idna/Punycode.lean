/-!
# Punycode

Texts as sequences of ASCII letters, digits and hyphens. The ASCII characters
of a text stand first, followed by a hyphen if there are any; the others are
inserted one by one, each given by how far to move on from the insertion before
it, as a number of variable length. How long the numbers are adapts to the
distances seen so far.

## Main definitions

* `Punycode.encode`: The ASCII form of a text.
* `Punycode.decode?`: The text of an ASCII form.
-/

namespace BrokerClient

namespace Punycode

/-- The number of digits. -/
def base : Nat := 36

/-- The least and the greatest threshold of a digit, the first bias and the
    first code point that is not written as it is. -/
def leastThreshold : Nat := 1

/-- The greatest threshold of a digit. -/
def greatestThreshold : Nat := 26

/-- The bias before the first insertion. -/
def firstBias : Nat := 72

/-- The first code point that is not written as it is. -/
def firstCode : Nat := 128

/-- The threshold of the `k`-th digit position under a bias: the digit that
    ends a number is below it. -/
def threshold (k bias : Nat) : Nat :=
  if k ≤ bias + leastThreshold then leastThreshold
  else if bias + greatestThreshold ≤ k then greatestThreshold
  else k - bias

/-- Divides a distance until it is small, counting the positions. -/
def shrink (delta k : Nat) : Nat :=
  if 455 < delta then shrink (delta / 35) (k + base)
  else k + 36 * delta / (delta + 38)
termination_by delta

/-- The bias after an insertion at a distance, as the text grows to a
    length. -/
def adapt (delta length : Nat) (first : Bool) : Nat :=
  let delta := if first then delta / 700 else delta / 2
  shrink (delta + delta / length) 0

/-- The character of a digit. -/
def digitChar (d : Nat) : Char :=
  if d < 26 then Char.ofNat ('a'.toNat + d) else Char.ofNat ('0'.toNat + (d - 26))

/-- The digit of a character. -/
def digitValue? (c : Char) : Option Nat :=
  if c.isDigit then some (c.toNat - '0'.toNat + 26)
  else if 'a' ≤ c && c ≤ 'z' then some (c.toNat - 'a'.toNat)
  else if 'A' ≤ c && c ≤ 'Z' then some (c.toNat - 'A'.toNat)
  else none

/-- A distance as digits from position `k` on. -/
def writeDistance (bias k q : Nat) : List Char :=
  let t := threshold k bias
  if h : q < t then [digitChar q]
  else
    have : (q - t) / (base - t) < q := by
      have ht : 1 ≤ t := by
        simp only [t, threshold, leastThreshold, greatestThreshold]
        grind
      exact Nat.lt_of_le_of_lt (Nat.div_le_self _ _) (by omega)
    digitChar (t + (q - t) % (base - t)) :: writeDistance bias (k + base) ((q - t) / (base - t))
termination_by q

/-- What the encoder knows after some insertions. -/
structure Progress where
  delta : Nat
  bias : Nat
  handled : Nat
  basic : Nat
  reversed : List Char

/-- Inserts every occurrence of one code point. -/
def insertAll (code : Nat) (text : List Nat) (p : Progress) : Progress :=
  text.foldl (fun p c =>
    if c < code then { p with delta := p.delta + 1 }
    else if c = code then
      { p with
        delta := 0
        bias := adapt p.delta (p.handled + 1) (p.handled = p.basic)
        handled := p.handled + 1
        reversed := (writeDistance p.bias base p.delta).reverse ++ p.reversed }
    else p) p

/-- Inserts the code points of a list in ascending order. -/
def insertCodes (text : List Nat) : Nat → List Nat → Progress → Progress
  | _, [], p => p
  | next, code :: codes, p =>
    let p := { p with delta := p.delta + (code - next) * (p.handled + 1) }
    let p := insertAll code text p
    insertCodes text (code + 1) codes { p with delta := p.delta + 1 }

/-- The ASCII form of a text. -/
def encode (text : List Char) : List Char :=
  let codes := text.map Char.toNat
  let basic := text.filter fun c => c.toNat < firstCode
  let others := ((codes.filter fun c => firstCode ≤ c).mergeSort (· ≤ ·)).eraseDups
  let front := if basic.isEmpty then [] else basic ++ ['-']
  let start : Progress := ⟨0, firstBias, basic.length, basic.length, []⟩
  front ++ (insertCodes codes firstCode others start).reversed.reverse

/-- What the decoder knows between two digits: the text so far, the last code
    point, the place of the next insertion with the digits read so far, the
    weight of the next digit and its position, the bias, and whether a number
    has been begun. -/
structure Reading where
  text : List Char
  code : Nat
  oldPlace : Nat
  place : Nat
  weight : Nat
  position : Nat
  bias : Nat
  inside : Bool

/-- Puts a character into a text. -/
def insertAt (text : List Char) (place : Nat) (c : Char) : List Char :=
  text.take place ++ c :: text.drop place

/-- Reads the insertions. -/
def decodeFrom (r : Reading) : List Char → Option (List Char)
  | [] => if r.inside then none else some r.text
  | c :: rest =>
    match digitValue? c with
    | none => none
    | some digit =>
      let place := r.place + digit * r.weight
      let t := threshold r.position r.bias
      if digit < t then
        let length := r.text.length + 1
        let code := r.code + place / length
        if 0x10FFFF < code || (0xD800 ≤ code && code ≤ 0xDFFF) then none
        else
          let at_ := place % length
          let bias := adapt (place - r.oldPlace) length (r.oldPlace = 0)
          decodeFrom ⟨insertAt r.text at_ (Char.ofNat code), code, at_ + 1, at_ + 1, 1, base,
            bias, false⟩ rest
      else
        decodeFrom { r with
          place
          weight := r.weight * (base - t)
          position := r.position + base
          inside := true } rest

/-- The text of an ASCII form. A hyphen that nothing stands before is no
    digit, so it makes the form invalid. -/
def decode? (form : List Char) : Option (List Char) :=
  let back := (form.reverse.takeWhile (· ≠ '-')).reverse
  let front := form.take (form.length - back.length - 1)
  if front.isEmpty && back.length ≠ form.length then none
  else if front.all fun c => c.toNat < firstCode then
    decodeFrom ⟨front, firstCode, 0, 0, 1, base, firstBias, false⟩ back
  else none

end Punycode

end BrokerClient
