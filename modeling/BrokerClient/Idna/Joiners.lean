import BrokerClient.Unicode.CodePointSet
import BrokerClient.Unicode.Normalization

/-!
# Joiners and Marks in Domain Names

Two invisible characters, the zero width joiner and non-joiner, are allowed
only where they change how the text around them is drawn, and no label may
begin with a combining mark.

## Main definitions

* `Idna.isMark`: Combining marks.
* `Idna.keepsJoiners`: Whether every joiner of a label stands where it matters.
-/

namespace BrokerClient

namespace Idna

/-- Runs of joining types: `l`, `r` and `d` join on the left, on the right and
    on both sides, `c` causes joining, `t` is transparent, `u` does not join. -/
def joiningTypes : RunTable := RunTable.ofText
  "u173 t1 u594 t112 u275 t7 u263 t45 u1 t1 u1 t2 u1 t2 u1 t1 u72 t11 u1 t1 u3 d1 u1 r4 d1 r1
    d1 r1 d5 r4 d13 c1 d7 r1 d2 t21 u14 d2 t1 r3 u1 r3 d16 r18 d38 r1 d2 r9 d1 r1 d1 r1 d2 r2 u1
    r1 t7 u2 t6 u2 t2 u1 t4 r2 u10 d3 u2 d1 u15 t1 r1 t1 d3 r5 d4 r1 d9 r1 d1 r1 d1 r1 d2 r1 t27
    u2 r1 d11 r3 d15 r2 d4 r1 d1 r2 d3 r2 d6 u38 t11 u25 d33 t9 u6 c1 u2 t1 u24 t4 u1 t9 u1 t3
    u1 t5 u18 r1 d5 r2 d1 r1 d10 r1 d1 r3 t3 u4 d1 u1 d4 u1 r1 d1 r2 u5 r19 c3 d1 u2 d5 r1 d1 u7
    t9 d10 r3 u1 r1 d2 r2 d6 r1 d15 u1 t24 u1 t32 u55 t1 u1 t1 u4 t8 u4 t1 u3 t7 u10 t2 u29 t1
    u58 t1 u4 t4 u8 t1 u20 t2 u26 t1 u2 t2 u57 t1 u4 t2 u4 t2 u2 t3 u3 t1 u30 t2 u3 t1 u11 t2
    u57 t1 u4 t5 u1 t2 u4 t1 u20 t2 u22 t6 u1 t1 u58 t1 u2 t1 u1 t4 u8 t1 u7 t2 u11 t2 u30 t1
    u61 t1 u12 t1 u50 t1 u3 t1 u55 t1 u1 t3 u5 t3 u1 t4 u7 t2 u11 t2 u29 t1 u58 t1 u2 t1 u6 t1
    u5 t2 u20 t2 u28 t2 u57 t2 u4 t4 u8 t1 u20 t2 u29 t1 u72 t1 u7 t3 u1 t1 u90 t1 u2 t7 u12 t8
    u98 t1 u2 t9 u11 t7 u73 t2 u27 t1 u1 t1 u1 t1 u55 t14 u1 t5 u1 t2 u5 t11 u1 t36 u9 t1 u102
    t4 u1 t6 u1 t2 u2 t2 u25 t2 u4 t3 u16 t4 u13 t1 u2 t2 u6 t1 u15 t1 u703 t3 u946 t3 u29 t2
    u30 t2 u30 t2 u64 t2 u1 t7 u8 t1 u2 t11 u9 t1 u41 d1 u2 c1 t3 u1 t1 u16 d89 u12 t2 d34 t1 d1
    u117 t3 u4 t2 u9 t1 u6 t3 u219 t2 u2 t1 u58 t1 u1 t7 u1 t1 u1 t1 u2 t8 u6 t10 u2 t1 u48 t46
    u2 t12 u20 t4 u48 t1 u1 t5 u1 t1 u5 t1 u40 t9 u12 t2 u32 t4 u2 t2 u1 t3 u56 t1 u1 t2 u3 t1
    u1 t3 u58 t8 u2 t2 u152 t3 u1 t13 u1 t7 u4 t1 u6 t1 u3 t2 u198 t64 u523 t1 u1 c1 t2 u26 t5
    u49 t5 u5 t6 u96 t33 u3070 t3 u141 t1 u96 t32 u554 t4 u107 t2 u30164 t4 u1 t10 u32 t2 u80 t2
    u272 t1 u3 t1 u4 t1 u25 t2 u5 t1 u19 d50 l1 u81 t2 u26 t18 u13 t1 u38 t8 u25 t11 u46 t3 u48
    t1 u2 t4 u2 t2 u39 t1 u67 t6 u2 t2 u2 t2 u12 t1 u8 t1 u47 t1 u51 t1 u1 t3 u2 t2 u5 t2 u1 t1
    u42 t2 u8 t1 u238 t1 u2 t1 u4 t1 u20272 t1 u737 t16 u16 t16 u207 t1 u249 t3 u513 t1 u226 t1
    u149 t5 u1670 t3 u1 t2 u5 t4 u40 t3 u4 t1 u128 d5 r1 u1 r1 u1 r2 u2 l1 r5 d4 l1 d5 r1 d3 r1
    u2 r1 t2 u4 d4 r1 u144 d1 r1 d1 r3 d3 r1 d2 r1 d1 r2 d1 r1 u23 r4 d2 u337 l1 d33 r1 d1 t4
    u65 t5 u317 t2 u21 r1 d2 u1 d2 u50 t6 u48 d3 r1 d17 u1 t11 d3 r1 u27 d4 r2 d12 t4 u42 d1 u1
    d2 r3 u1 d1 r2 d2 r1 d2 u1 d1 r2 d1 u4 r1 d1 l1 u53 t1 u54 t15 u41 t1 u2 t2 u10 t3 u49 t4 u2
    t2 u7 t1 u61 t3 u36 t5 u1 t8 u62 t1 u12 t2 u52 t9 u10 t4 u2 t1 u95 t3 u2 t1 u1 t2 u6 t1 u2
    t1 u157 t1 u3 t8 u21 t2 u57 t2 u3 t1 u37 t7 u3 t5 u70 t6 u13 t1 u1 t1 u1 t1 u14 t2 u85 t8 u2
    t3 u1 t1 u23 t1 u84 t6 u1 t1 u4 t2 u1 t2 u238 t4 u6 t2 u1 t2 u27 t2 u85 t8 u2 t1 u1 t2 u106
    t1 u1 t1 u2 t6 u1 t1 u101 t1 u1 t1 u2 t4 u1 t5 u259 t9 u1 t2 u256 t2 u1 t1 u4 t1 u144 t4 u2
    t2 u4 t1 u32 t10 u40 t6 u2 t4 u8 t1 u9 t6 u2 t3 u46 t13 u1 t2 u198 t1 u1 t3 u1 t1 u201 t7 u1
    t6 u1 t1 u82 t22 u2 t7 u1 t2 u1 t2 u122 t6 u3 t1 u1 t2 u1 t7 u1 t1 u72 t2 u3 t1 u1 t1 u347
    t2 u11 t2 u52 t5 u5 t1 u1 t1 u23 t1 u5333 t17 u6 t15 u11464 t12 u3 t3 u2496 t5 u59 t7 u1048
    t1 u63 t4 u81 t1 u19640 t2 u1 t4 u4700 t46 u2 t23 u544 t3 u9 t16 u2 t7 u30 t4 u148 t3 u1979
    t55 u4 t50 u8 t1 u14 t1 u22 t5 u1 t15 u1360 t7 u1 t17 u2 t7 u1 t2 u1 t5 u100 t1 u160 t7 u375
    t1 u61 t4 u508 t4 u254 t2 u243 t1 u2 t1 u7 t2 u5 t1 u474 t7 u41 d68 t8 u792245 t1 u30 t96
    u128 t240 u196112"
/-- The general category of marks. -/
def marks : CodePointSet := CodePointSet.ofSteps
  "768 112 275 7 263 45 1 1 1 2 1 2 1 1 72 11 48 21 16 1 101 7 2 6 2 2 1 4 35 1 30 27 91 11 58
    9 9 1 24 4 1 9 1 3 1 5 43 3 60 8 42 24 1 33 54 3 1 18 1 7 10 2 29 3 56 1 1 7 2 2 2 3 9 1 10
    2 26 1 2 3 56 1 1 5 4 2 2 3 3 1 30 2 3 1 11 3 56 1 1 8 1 3 1 3 20 2 22 6 1 3 56 1 1 7 2 2 2
    3 7 3 10 2 30 1 59 5 3 3 1 4 9 1 40 5 55 1 1 7 1 3 1 4 7 2 11 2 29 3 56 1 1 7 1 3 1 4 7 2 11
    2 28 4 55 2 1 7 1 3 1 4 9 1 10 2 29 3 70 1 4 6 1 1 1 8 18 2 61 1 2 7 12 8 98 1 2 9 11 6 74 2
    27 1 1 1 1 1 4 2 49 20 1 2 5 11 1 36 9 1 100 20 23 4 4 3 1 3 2 7 3 4 13 12 1 1 10 4 703 3
    946 4 28 3 29 2 30 2 64 32 9 1 45 3 1 1 117 2 34 1 118 12 4 12 219 5 57 10 1 29 2 1 48 31 49
    5 47 17 38 9 12 3 30 13 56 14 48 20 152 3 1 21 4 1 6 1 2 3 198 64 720 33 3070 3 141 1 96 32
    554 6 105 2 30164 4 1 10 32 2 80 2 272 1 3 1 4 1 23 5 4 1 83 2 50 18 26 18 13 1 38 8 25 13
    44 4 47 14 36 1 67 14 12 1 8 2 45 3 50 1 1 3 2 2 5 2 1 1 41 5 5 2 236 8 1 2 20272 1 737 16
    16 16 973 1 226 1 149 5 1670 3 1 2 5 4 40 3 4 1 165 2 573 4 387 2 153 11 49 4 122 3 53 15 41
    1 2 2 10 4 45 11 7 1 61 3 36 14 16 2 44 1 12 3 48 14 8 4 1 2 92 12 6 1 160 12 21 4 55 2 1 7
    2 2 2 3 9 1 10 2 2 7 3 5 192 18 23 1 81 20 235 7 2 9 27 2 82 17 106 13 101 15 256 15 245 6 1
    2 2 4 1 1 1 2 141 7 2 7 3 1 28 10 40 7 1 4 8 1 9 11 46 16 405 8 1 8 82 22 1 14 122 6 3 1 1 2
    1 7 1 1 66 5 1 2 1 5 347 4 19449 5 59 7 1048 1 1 55 7 4 81 1 11 2 19627 2 4705 46 2 23 542 5
    3 6 8 8 2 7 30 4 148 3 1979 55 4 50 8 1 14 1 22 5 1 15 1360 7 1 17 2 7 1 2 1 5 261 7 375 1
    61 4 1504 7 109 7 792501 240 196112"
/-- Whether a character is a combining mark. -/
def isMark (c : Char) : Bool := 0x300 ≤ c.toNat && marks.contains c.toNat

/-- The class of the signs that suppress a vowel. -/
def viramaClass : Nat := 9

/-- Whether a non-joiner between two texts, the one before it reversed, keeps
    apart letters that would join across transparent characters. -/
def separates (before after : List Char) : Bool :=
  let nearest (cs : List Char) : Option Char :=
    ((cs.map joiningTypes.kindOf).dropWhile (· = 't')).head?
  (nearest before).any (· ∈ ['l', 'd']) && (nearest after).any (· ∈ ['r', 'd'])

/-- Checks the joiners of a label behind a reversed text. -/
def keepsJoinersFrom (before : List Char) : List Char → Bool
  | [] => true
  | c :: r =>
    let afterVirama := before.head?.any fun d => Unicode.combiningClass d = viramaClass
    let ok :=
      if c = '\u200D' then afterVirama
      else if c = '\u200C' then afterVirama || separates before r
      else true
    ok && keepsJoinersFrom (c :: before) r

/-- Whether every joiner of a label stands where it matters. -/
def keepsJoiners (label : List Char) : Bool := keepsJoinersFrom [] label

end Idna

end BrokerClient
