import BrokerClient.Unicode.RunTable

/-!
# Writing Directions in Domain Names

A name with letters of right-to-left scripts is read in the order in which it
is stored only if its labels keep to rules about which classes of characters
they mix and how they begin and end.

## Main definitions

* `Idna.directions`: The bidirectional classes that the rules tell apart.
* `Idna.isRightToLeft`: Whether a character makes the rules apply.
* `Idna.keepsDirection`: The rules for one label.
-/

namespace BrokerClient

namespace Idna

/-- Runs of bidirectional classes: `l` and `r` left and right, `a` Arabic
    letter, `n` Arabic number, `e` European number, `s` and `t` separator and
    terminator of European numbers, `c` common separator, `o` other neutral,
    `b` boundary neutral, `m` nonspacing mark, `x` anything else. -/
def directions : RunTable := RunTable.ofText
  "b9 x5 b14 x5 o2 t3 o5 s1 c1 s1 c2 e10 c1 o6 l26 o6 l26 o4 b6 x1 b26 c1 o1 t4 o4 l1 o2 b1 o2
    t2 e2 o1 l1 o3 e1 l1 o5 l23 o1 l31 o1 l449 o2 l7 o14 l2 o14 l5 o9 l1 o17 m112 l4 o2 l2 x2 l4
    o1 l1 x4 o2 l1 o1 l3 x1 l1 x1 l20 x1 l83 o1 l140 m7 l166 x1 l38 x2 l49 o1 x2 o2 t1 x1 m45 r1
    m1 r1 m2 r1 m2 r1 m1 x8 r27 x4 r6 x11 n6 o2 a1 t2 a1 c1 a1 o2 m11 a48 m21 n10 t1 n2 a3 m1
    a101 m7 n1 o1 m6 a2 m2 o1 m4 a2 e10 a20 x1 a2 m1 a30 m27 x2 a89 m11 a1 x14 r43 m9 r2 o4 r1
    x2 m1 r24 m4 r1 m9 r1 m3 r1 m5 x2 r15 x1 r25 m3 x2 r1 x1 a11 x5 a31 x1 n2 x6 m8 a42 m24 n1
    m32 l55 m1 l1 m1 l4 m8 l4 m1 l3 m7 l10 m2 l29 m1 l2 x1 l8 x2 l2 x2 l22 x1 l7 x1 l1 x3 l4 x2
    m1 l4 m4 x2 l2 x2 l2 m1 l1 x8 l1 x4 l2 x1 l3 m2 x2 l12 t2 l7 t1 l2 m1 x2 m2 l1 x1 l6 x4 l2
    x2 l22 x1 l7 x1 l2 x1 l2 x1 l2 x2 m1 x1 l3 m2 x4 m2 x2 m3 x3 m1 x7 l4 x1 l1 x7 l10 m2 l3 m1
    l1 x10 m2 l1 x1 l9 x1 l3 x1 l22 x1 l7 x1 l2 x1 l5 x2 m1 l4 m5 x1 m2 l1 x1 l2 m1 x2 l1 x15 l2
    m2 x2 l11 t1 x7 l1 m6 x1 m1 l2 x1 l8 x2 l2 x2 l22 x1 l7 x1 l2 x1 l5 x2 m1 l2 m1 l1 m4 x2 l2
    x2 l2 m1 x7 m2 l1 x4 l2 x1 l3 m2 x2 l18 x10 m1 l1 x1 l6 x3 l3 x1 l4 x3 l2 x1 l1 x1 l2 x3 l2
    x3 l3 x3 l12 x4 l2 m1 l2 x3 l3 x1 l3 m1 x2 l1 x6 l1 x14 l13 o6 t1 o1 x5 m1 l3 m1 l8 x1 l3 x1
    l23 x1 l16 x2 m1 l1 m3 l4 x1 m3 x1 m4 x7 m2 x1 l3 x2 l1 x2 l2 m2 x2 l10 x7 l1 o7 l2 m1 l11
    x1 l3 x1 l23 x1 l10 x1 l5 x2 m1 l8 x1 l3 x1 l2 m2 x7 l2 x6 l2 x1 l2 m2 x2 l10 x1 l2 x13 m2
    l11 x1 l3 x1 l41 m2 l4 m4 x1 l3 x1 l3 m1 l2 x4 l14 m2 x2 l26 x1 m1 l2 x1 l18 x3 l24 x1 l9 x1
    l1 x2 l7 x3 m1 x4 l3 m3 x1 m1 x1 l8 x6 l10 x2 l3 x12 l48 m1 l2 m7 x4 t1 l7 m8 l13 x37 l2 x1
    l1 x1 l5 x1 l24 x1 l1 x1 l10 m1 l2 m9 l1 x2 l5 x1 l1 x1 m6 x2 l10 x2 l4 x32 l24 m2 l27 m1 l1
    m1 l1 m1 o4 l10 x1 l36 x4 m14 l1 m5 l1 m2 l5 m11 x1 m36 x1 l8 m1 l6 x1 l13 x37 l45 m4 l1 m6
    l1 m2 l2 m2 l25 m2 l4 m3 l16 m4 l13 m1 l2 m2 l6 m1 l15 m1 l40 x1 l1 x5 l1 x2 l377 x1 l4 x2
    l7 x1 l1 x1 l4 x2 l41 x1 l4 x2 l33 x1 l4 x2 l7 x1 l1 x1 l4 x2 l15 x1 l57 x1 l4 x2 l67 x2 m3
    l29 x3 l16 o10 x6 l86 x2 l6 x2 o1 l639 x1 l26 o2 x3 l89 x7 l18 m3 l1 x9 l19 m2 l3 x9 l18 m2
    x12 l13 x1 l3 x1 m2 x12 l52 m2 l1 m7 l8 m1 l2 m11 l7 t1 l1 m1 x2 l10 x6 o10 x6 o11 m3 b1 m1
    l10 x6 l89 x7 l5 m2 l34 m1 l1 x5 l70 x10 l31 x1 m3 l4 m2 l3 x4 l2 m1 l6 m3 x4 o1 x3 o2 l40
    x2 l5 x11 l44 x4 l26 x6 l11 x3 o34 l23 m2 l2 m1 x2 l56 m1 l1 m7 x1 m1 l1 m1 l2 m8 l6 m10 x2
    m1 l10 x6 l10 x6 l14 x2 m31 x49 m4 l48 m1 l1 m5 l1 m1 l5 m1 l10 x3 l27 m9 l11 x1 m2 l32 m4
    l2 m2 l1 m3 l56 m1 l1 m2 l3 m1 l1 m3 l2 x8 l48 m8 l2 m2 x3 l15 x3 l60 x7 l43 x2 l11 x8 m3 l1
    m13 l1 m7 l4 m1 l6 m1 l3 m2 l1 x5 l192 m64 l278 x2 l6 x2 l38 x2 l6 x2 l8 x1 l1 x1 l1 x1 l1
    x1 l31 x2 l53 x1 l7 o1 l1 o3 l3 x1 l7 o3 l4 x2 l6 x1 o3 l13 o3 x2 l3 x1 l7 o2 x12 b3 l1 r1
    o24 x7 c1 t5 o15 c1 o26 x1 b5 x5 b6 e1 l1 x2 e6 s2 o3 l1 e10 s2 o3 x1 l13 x3 t33 x15 m33 x15
    o2 l1 o4 l1 o2 l10 o1 l1 o3 l5 o6 l1 o1 l1 o1 l1 o1 l4 t1 l11 o2 l4 o5 l5 o4 l2 o16 l41 o3
    x4 o130 s1 t1 o290 l69 o26 l1 o145 x25 o11 x21 o40 e20 l78 o450 l1 o339 l256 o628 x2 o32 x1
    o105 l229 o6 l4 m3 l2 x5 o7 l38 x1 l1 x5 l1 x2 l56 x7 l2 x14 m1 l23 x9 l7 x1 l7 x1 l7 x1 l7
    x1 l7 x1 l7 x1 l7 x1 l7 x1 m32 o94 x34 o26 x1 o89 x12 o214 x26 o12 x5 o4 l3 o25 l9 m4 l2 o1
    l5 o2 l5 o3 x1 l86 x2 m2 o2 l3 o1 l90 o1 l4 x5 l43 x1 l94 x1 l48 o36 x12 l45 o2 x1 l48 o16
    l28 o3 l50 o15 l12 o4 l167 o4 l99 o2 l31 o1 l6592 o64 l22157 x3 o55 x9 l317 o3 l28 x20 l47
    m4 o1 m10 o2 l30 m2 l80 m2 l6 x8 o34 l102 o1 l66 x5 l2 x1 l1 x1 l5 x24 l16 m1 l3 m1 l4 m1
    l25 m2 l1 o4 m1 x3 l8 t2 x6 l52 o4 x8 l68 m2 x8 l12 x6 m18 l13 m1 l38 m8 l25 m11 l2 x11 l30
    x3 m3 l48 m1 l2 m4 l2 m2 l16 x1 l11 x4 l7 m1 l25 x1 l41 m6 l2 m2 l2 m2 x9 l3 m1 l8 m1 l1 x2
    l10 x2 l32 m1 l51 m1 l1 m3 l2 m2 l5 m2 l1 m1 l1 x24 l17 m2 l8 m1 x10 l6 x2 l6 x2 l6 x9 l7 x1
    l7 x1 l58 o2 x4 l117 m1 l2 m1 l4 m1 x2 l10 x6 l11172 x12 l23 x4 l49 x2052 l6766 x2 l106 x38
    l7 x12 l5 x5 r1 m1 r10 s1 r13 x1 r5 x1 r1 x1 r2 x1 r2 x1 r10 a115 x16 a363 o18 a64 x2 a54 x7
    o1 x32 a13 o3 m16 o10 x6 m16 o32 c1 o1 c1 x1 o1 c1 o9 t1 o2 s2 o3 x1 o1 t2 o1 x4 a5 x1 a135
    x2 b1 x1 o2 t3 o5 s1 c1 s1 c2 e10 c1 o6 l26 o6 l26 o11 l89 x3 l6 x2 l6 x2 l6 x2 l3 x3 t2 o3
    t2 x1 o7 x10 o5 x2 l12 x1 l26 x1 l19 x1 l2 x1 l15 x2 l14 x34 l123 x5 l1 o1 l1 x4 l45 x3 l9
    o77 l2 x1 o13 x3 o1 x47 l45 m1 x130 l29 x3 l49 x15 m1 e27 x4 l36 x9 l30 x5 l38 m5 x5 l30 x1
    l37 x4 l14 x42 l158 x2 l10 x6 l36 x4 l36 x4 l40 x8 l52 x11 l12 x1 l15 x1 l7 x1 l2 x1 l11 x1
    l15 x1 l7 x1 l2 x67 l311 x9 l22 x10 l8 x24 l6 x1 l42 x1 l9 x69 r6 x2 r1 x1 r44 x1 r2 x3 r1
    x2 r23 x1 r72 x8 r9 x48 r19 x1 r2 x5 r33 x3 o1 r26 x5 r1 x64 r56 x4 r20 x2 r47 m3 x1 m2 x5
    m4 r4 x1 r3 x1 r29 x2 m3 x4 m1 r9 x7 r9 x7 r64 x32 r37 m2 x4 r12 x9 r54 x3 o7 r22 x2 r27 x5
    r26 x7 r4 x12 r7 x80 r73 x55 r51 x13 r51 x7 r6 a36 m4 x8 n10 x294 n31 x1 r42 x1 m2 r1 x2 r2
    x78 r40 x8 a22 m11 a9 x22 r18 m4 r4 x38 r28 x20 r23 x9 l1 m1 l54 m15 l7 x4 o20 l10 m1 l2 m2
    l1 x9 m3 l49 m4 l2 m2 l7 m1 x10 l1 x2 l25 x7 l10 x6 m3 l36 m5 l1 m8 x1 l18 x8 l35 m1 l3 x9
    m2 l52 m9 l10 m4 l2 m1 l16 x1 l20 x11 l18 x1 l28 m3 l2 m1 l1 m2 l6 m1 x65 l7 x1 l1 x1 l4 x1
    l15 x1 l11 x6 l47 m1 l3 m8 x5 l10 x6 m2 l2 x1 l8 x2 l2 x2 l22 x1 l7 x1 l2 x1 l5 x1 m2 l3 m1
    l4 x2 l2 x2 l3 x2 l1 x6 l1 x5 l7 x2 m7 x3 m5 x139 l56 m8 l2 m3 l1 m1 l21 x1 l1 m1 l3 x30 l51
    m6 l1 m1 l4 m2 l1 m2 l4 x8 l10 x166 l50 m4 x2 l4 m2 l1 m2 l27 m2 x34 l51 m8 l2 m1 l1 m2 l4
    x11 l10 x6 o13 x19 l43 m1 l1 m1 l2 m6 l1 m1 l2 x6 l10 x54 l27 x2 m3 l2 m4 l1 m5 x4 l23 x185
    l47 m9 l1 m2 l1 x100 l83 x12 l8 x2 l1 x2 l8 x1 l2 x1 l30 x1 l2 x2 m2 l1 m1 l4 m1 l3 x9 l10
    x70 l8 x2 l42 m4 x2 m2 l4 m1 l4 x27 l1 m6 l2 m2 l40 m6 l2 m4 l8 m1 x8 l1 m6 l2 m3 l46 m13 l1
    m2 l9 x13 l73 x263 l9 x1 l38 m7 x1 m6 l8 x10 l29 x3 l32 x2 m22 x1 l1 m7 l1 m2 l1 m2 x73 l7
    x1 l2 x1 l38 m6 x3 m1 x1 m2 x1 m7 l1 m1 x8 l10 x6 l6 x1 l2 x1 l37 x1 m2 x1 l2 m1 l1 m1 l1 x7
    l10 x310 l19 m2 l4 x183 l1 x15 l21 o8 t4 o17 x13 l923 x102 l111 x1 l5 x11 l196 x2636 l99 x13
    l1071 x1 l9 x4039 l583 x8633 l569 x7 l31 x1 l10 x4 l81 x1 l10 x6 l30 x2 m5 l1 x10 l48 m7 l15
    x10 l10 x1 l7 x1 l21 x5 l19 x688 l91 x101 l75 x4 m1 l56 x7 m4 l13 x64 l2 o1 l1 m1 x11 l2 x14
    l6136 x8 l1238 x42 l9 x8935 l4 x1 l7 x1 l2 x1 l291 x45 l3 x17 l4 x8 l396 x2308 l107 x5 l13
    x3 l9 x7 l10 x2 l1 m2 l1 b4 x4700 m46 x2 m23 x9 l116 x60 l246 x10 l39 x2 l62 m3 l9 b8 m8 l2
    m7 l30 m4 l59 o2 x21 o66 m3 o1 x154 l20 x12 o87 x9 l25 x135 l85 x1 l71 x1 l2 x2 l1 x2 l2 x2
    l4 x1 l12 x1 l1 x1 l7 x1 l65 x1 l4 x2 l8 x1 l7 x1 l28 x1 l4 x1 l5 x1 l1 x3 l7 x1 l340 x2 l51
    o1 l57 o1 l57 o1 l57 o1 l57 o1 l8 x2 e50 l512 m55 l4 m50 l8 m1 l14 m1 l7 x15 m5 x1 m15 x1104
    l31 x225 m7 x1 m17 x2 m7 x1 m2 x1 m5 x213 l45 x3 m7 l7 x2 l10 x4 l2 x320 l30 m1 x17 l44 m4
    l10 x5 t1 x1248 l7 x1 l4 x1 l2 x1 l15 x1 r197 x2 r9 m7 x41 r68 m7 r1 x4 r10 x4 r2 x785 a68
    x76 a61 x194 a4 x1 a27 x1 a2 x1 a1 x2 a1 x1 a10 x1 a4 x1 a1 x1 a1 x6 a1 x4 a1 x1 a1 x1 a1 x1
    a3 x1 a2 x1 a1 x2 a1 x1 a1 x1 a1 x1 a1 x1 a1 x1 a2 x1 a1 x2 a4 x1 a7 x1 a4 x1 a4 x1 a1 x1
    a10 x1 a17 x5 a3 x1 a5 x1 a17 x52 o2 x270 o44 x4 o100 x12 o15 x2 o15 x1 o15 x1 o37 x10 e11
    o5 l31 o1 l58 o6 l61 o1 x56 l29 x13 l44 x4 l9 x7 l2 x14 o6 x154 o984 x5 o16 x3 o13 x3 o116
    x12 o89 x7 o12 x4 o1 x15 o12 x4 o56 x8 o10 x6 o40 x8 o30 x2 o2 x78 o340 x12 o14 x2 o5 x3 o5
    x3 o7 x9 o29 x3 o11 x5 o6 x10 o10 x6 o8 x8 o7 x9 o147 x1 o55 x37 e10 x1030 l42720 x32 l4153
    x7 l222 x2 l5762 x14 l7473 x3103 l542 x1506 l4939 x715958 b1 x30 b96 x128 m240 x65040 l65534
    x2 l65534 x2"
/-- The bidirectional class of a character, as in the table. -/
def direction (c : Char) : Char := directions.kindOf c

/-- Whether a character is a letter or number of a right-to-left script. -/
def isRightToLeft (c : Char) : Bool := direction c ∈ ['r', 'a', 'n']

/-- Whether the last character that is no nonspacing mark is of one of the
    given classes. -/
def endsIn (classes : List Char) (label : List Char) : Bool :=
  match (label.map direction).reverse.dropWhile (· = 'm') with
  | [] => false
  | d :: _ => d ∈ classes

/-- The rules for a label of a name in which right-to-left letters occur. -/
def keepsDirection (label : List Char) : Bool :=
  let classes := label.map direction
  match classes with
  | [] => true
  | first :: _ =>
    if first = 'l' then
      classes.all (· ∈ ['l', 'e', 's', 'c', 't', 'o', 'b', 'm']) && endsIn ['l', 'e'] label
    else if first = 'r' || first = 'a' then
      classes.all (· ∈ ['r', 'a', 'n', 'e', 's', 'c', 't', 'o', 'b', 'm']) &&
        endsIn ['r', 'a', 'e', 'n'] label && !(classes.contains 'e' && classes.contains 'n')
    else false

end Idna

end BrokerClient
