/-!
# Blank Characters

The characters with the Unicode property `White_Space`, and the trimming of
texts by them.

## Main definitions

* `Unicode.isBlank`: The property.
* `Unicode.trim`: A text without the blanks at its two ends.
-/

namespace BrokerClient

namespace Unicode

/-- Characters with the property `White_Space`. -/
def isBlank (c : Char) : Bool :=
  let n := c.toNat
  (9 ≤ n && n ≤ 13) || n = 0x20 || n = 0x85 || n = 0xA0 || n = 0x1680 ||
    (0x2000 ≤ n && n ≤ 0x200A) || n = 0x2028 || n = 0x2029 || n = 0x202F || n = 0x205F ||
    n = 0x3000

/-- A text without the last characters that satisfy `p`. -/
def dropEndWhile (p : Char → Bool) (cs : List Char) : List Char :=
  (cs.reverse.dropWhile p).reverse

/-- A text without the characters at its two ends that satisfy `p`. -/
def trimWhere (p : Char → Bool) (cs : List Char) : List Char :=
  dropEndWhile p (cs.dropWhile p)

/-- A text without the blanks at its two ends. -/
def trim (cs : List Char) : List Char :=
  trimWhere isBlank cs

end Unicode

end BrokerClient
