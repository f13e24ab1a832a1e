import BrokerClient.Text.OsText

/-!
# Encoded Text

Encoding and decoding undo each other. The decoder is a view of the pieces of
a byte string, so everything here comes down to two facts about `pieces`. It
reads an encoded character back as one piece, whatever follows
(`pieces_encodeChar_append`), and it loses nothing, broken or not
(`flatMap_bytes_pieces`).

The conditions on bytes are comparisons of bytes in the definitions. The
lemmas named `_iff` turn them into comparisons of numbers, after which the four
lengths of a character differ in arithmetic only.

## Theorems

* `Utf8.pieces_encodeChar_append`: An encoded character is read back as one piece.
* `Utf8.flatMap_bytes_pieces`: The pieces of a byte string make it up.
* `Utf8.notMem_encode`: ASCII bytes of a text are characters of it.
* `Utf8.pieces_encode_append`: An encoded text is read back, whatever follows it.
* `Utf8.decode?_encode`: An encoded text decodes to itself.
* `Utf8.encode_of_decode?`: What decodes is the encoding of the result.
* `OsText.text?_ofString`: A text is read back from its bytes.
* `OsText.ofString_of_text?`: Bytes that have a text are those of the text.
* `OsText.ofString_injective`: Different texts have different bytes.
* `OsText.exists_ofString_of_append`: What stands behind a text in a text is one too.
* `OsText.shownChars_ofString_append`: A text at the front is shown as it is.
* `OsText.exists_of_shownChars_eq_append`: A text at the front of what is shown is there.
-/

namespace BrokerClient

namespace Utf8

theorem isContinuation_iff (b : UInt8) :
    isContinuation b = true ↔ 0x80 ≤ b.toNat ∧ b.toNat ≤ 0xBF := by
  simp only [isContinuation, Bool.and_eq_true, decide_eq_true_eq, UInt8.le_iff_toNat_le]
  rfl

theorem isSecondOfThree_iff (a b : UInt8) :
    isSecondOfThree a b = true ↔ 0x80 ≤ b.toNat ∧ b.toNat ≤ 0xBF ∧
      (a.toNat = 0xE0 → 0xA0 ≤ b.toNat) ∧ (a.toNat = 0xED → b.toNat ≤ 0x9F) := by
  have h0 : a = 0xE0 ↔ a.toNat = 0xE0 := by rw [← UInt8.toNat_inj]; rfl
  have h1 : a = 0xED ↔ a.toNat = 0xED := by rw [← UInt8.toNat_inj]; rfl
  unfold isSecondOfThree
  split
  · next h =>
    rw [h0] at h
    simp only [Bool.and_eq_true, decide_eq_true_eq, UInt8.le_iff_toNat_le, UInt8.reduceToNat]
    omega
  · next h =>
    rw [h0] at h
    split
    · next h' =>
      rw [h1] at h'
      simp only [Bool.and_eq_true, decide_eq_true_eq, UInt8.le_iff_toNat_le, UInt8.reduceToNat]
      omega
    · next h' =>
      rw [h1] at h'
      rw [isContinuation_iff]
      omega

theorem isSecondOfFour_iff (a b : UInt8) :
    isSecondOfFour a b = true ↔ 0x80 ≤ b.toNat ∧ b.toNat ≤ 0xBF ∧
      (a.toNat = 0xF0 → 0x90 ≤ b.toNat) ∧ (a.toNat = 0xF4 → b.toNat ≤ 0x8F) := by
  have h0 : a = 0xF0 ↔ a.toNat = 0xF0 := by rw [← UInt8.toNat_inj]; rfl
  have h1 : a = 0xF4 ↔ a.toNat = 0xF4 := by rw [← UInt8.toNat_inj]; rfl
  unfold isSecondOfFour
  split
  · next h =>
    rw [h0] at h
    simp only [Bool.and_eq_true, decide_eq_true_eq, UInt8.le_iff_toNat_le, UInt8.reduceToNat]
    omega
  · next h =>
    rw [h0] at h
    split
    · next h' =>
      rw [h1] at h'
      simp only [Bool.and_eq_true, decide_eq_true_eq, UInt8.le_iff_toNat_le, UInt8.reduceToNat]
      omega
    · next h' =>
      rw [h1] at h'
      rw [isContinuation_iff]
      omega

/-- The bytes that begin a character of one byte. -/
theorem lt_ascii_iff (a : UInt8) : a < 0x80 ↔ a.toNat < 0x80 := UInt8.lt_iff_toNat_lt

theorem leadsTwo_iff (a : UInt8) :
    (decide (0xC2 ≤ a) && decide (a ≤ 0xDF)) = true ↔ 0xC2 ≤ a.toNat ∧ a.toNat ≤ 0xDF := by
  simp only [Bool.and_eq_true, decide_eq_true_eq, UInt8.le_iff_toNat_le]
  rfl

theorem leadsThree_iff (a : UInt8) :
    (decide (0xE0 ≤ a) && decide (a ≤ 0xEF)) = true ↔ 0xE0 ≤ a.toNat ∧ a.toNat ≤ 0xEF := by
  simp only [Bool.and_eq_true, decide_eq_true_eq, UInt8.le_iff_toNat_le]
  rfl

theorem leadsFour_iff (a : UInt8) :
    (decide (0xF0 ≤ a) && decide (a ≤ 0xF4)) = true ↔ 0xF0 ≤ a.toNat ∧ a.toNat ≤ 0xF4 := by
  simp only [Bool.and_eq_true, decide_eq_true_eq, UInt8.le_iff_toNat_le]
  rfl

theorem pieces_one (a : UInt8) (r : List UInt8) (ha : a.toNat < 0x80) :
    pieces (a :: r) = .char (Char.ofNat a.toNat) :: pieces r := by
  rw [pieces.eq_def]
  simp only
  rw [if_pos ((lt_ascii_iff a).mpr ha)]

theorem pieces_two (a b : UInt8) (r : List UInt8) (ha : 0xC2 ≤ a.toNat) (ha' : a.toNat ≤ 0xDF)
    (hb : isContinuation b = true) :
    pieces (a :: b :: r) =
      .char (Char.ofNat ((a.toNat - 0xC0) * 0x40 + tail b)) :: pieces r := by
  rw [pieces.eq_def]
  simp only [lt_ascii_iff, leadsTwo_iff]
  rw [if_neg (by omega), if_pos ⟨ha, ha'⟩, if_pos hb]

theorem pieces_three (a b c : UInt8) (r : List UInt8) (ha : 0xE0 ≤ a.toNat) (ha' : a.toNat ≤ 0xEF)
    (hb : isSecondOfThree a b = true) (hc : isContinuation c = true) :
    pieces (a :: b :: c :: r) =
      .char (Char.ofNat ((a.toNat - 0xE0) * 0x1000 + tail b * 0x40 + tail c)) :: pieces r := by
  rw [pieces.eq_def]
  simp only [lt_ascii_iff, leadsTwo_iff, leadsThree_iff]
  rw [if_neg (by omega), if_neg (by omega), if_pos ⟨ha, ha'⟩, if_pos hb, if_pos hc]

theorem pieces_four (a b c d : UInt8) (r : List UInt8) (ha : 0xF0 ≤ a.toNat)
    (ha' : a.toNat ≤ 0xF4) (hb : isSecondOfFour a b = true) (hc : isContinuation c = true)
    (hd : isContinuation d = true) :
    pieces (a :: b :: c :: d :: r) =
      .char (Char.ofNat ((a.toNat - 0xF0) * 0x40000 + tail b * 0x1000 + tail c * 0x40 + tail d)) ::
        pieces r := by
  rw [pieces.eq_def]
  simp only [lt_ascii_iff, leadsTwo_iff, leadsThree_iff, leadsFour_iff]
  rw [if_neg (by omega), if_neg (by omega), if_neg (by omega), if_pos ⟨ha, ha'⟩, if_pos hb,
    if_pos hc, if_pos hd]

theorem toNat_byte (n : Nat) (h : n < 256) : (UInt8.ofNat n).toNat = n :=
  UInt8.toNat_ofNat_of_lt' h

theorem isContinuation_byte (n : Nat) (h : n < 0x40) :
    isContinuation (UInt8.ofNat (0x80 + n)) = true := by
  rw [isContinuation_iff, toNat_byte _ (by omega)]
  omega

theorem tail_byte (n : Nat) (h : n < 0x40) : tail (UInt8.ofNat (0x80 + n)) = n := by
  have h' := toNat_byte (0x80 + n) (by omega)
  unfold tail
  omega

/-- An encoded character is read back as one piece. -/
theorem pieces_encodeChar_append (c : Char) (r : List UInt8) :
    pieces (encodeChar c ++ r) = .char c :: pieces r := by
  have hvalid : c.toNat < 0xD800 ∨ 0xDFFF < c.toNat ∧ c.toNat < 0x110000 := c.valid
  have hc : Char.ofNat c.toNat = c := Char.ofNat_toNat c
  unfold encodeChar
  generalize c.toNat = n at hvalid hc
  subst hc
  simp only
  -- The number of the character decides how many bytes there are.
  by_cases h1 : n < 0x80
  · rw [if_pos h1, List.cons_append, List.nil_append,
      pieces_one _ _ (by rw [toNat_byte n (by omega)]; exact h1), toNat_byte n (by omega)]
  rw [if_neg h1]
  by_cases h2 : n < 0x800
  · have ha := toNat_byte (0xC0 + n / 0x40) (by omega)
    rw [if_pos h2, List.cons_append, List.cons_append, List.nil_append,
      pieces_two _ _ _ (by omega) (by omega) (isContinuation_byte _ (by omega)), ha,
      tail_byte _ (by omega)]
    congr 3
    omega
  rw [if_neg h2]
  by_cases h3 : n < 0x10000
  · have ha := toNat_byte (0xE0 + n / 0x1000) (by omega)
    have hb := toNat_byte (0x80 + n / 0x40 % 0x40) (by omega)
    rw [if_pos h3]
    simp only [List.cons_append, List.nil_append]
    rw [pieces_three _ _ _ _ (by omega) (by omega)
        ((isSecondOfThree_iff _ _).mpr (by rw [ha, hb]; omega))
        (isContinuation_byte _ (by omega)), ha, tail_byte _ (by omega), tail_byte _ (by omega)]
    congr 3
    omega
  · have ha := toNat_byte (0xF0 + n / 0x40000) (by omega)
    have hb := toNat_byte (0x80 + n / 0x1000 % 0x40) (by omega)
    rw [if_neg h3]
    simp only [List.cons_append, List.nil_append]
    rw [pieces_four _ _ _ _ _ (by omega) (by omega)
        ((isSecondOfFour_iff _ _).mpr (by rw [ha, hb]; omega))
        (isContinuation_byte _ (by omega)) (isContinuation_byte _ (by omega)), ha,
      tail_byte _ (by omega), tail_byte _ (by omega), tail_byte _ (by omega)]
    congr 3
    omega

/-- A number that is a code point is the number of its character. -/
theorem toNat_char {n : Nat} (h : n < 0xD800 ∨ 0xDFFF < n ∧ n < 0x110000) :
    (Char.ofNat n).toNat = n := by
  unfold Char.ofNat
  rw [dif_pos h]
  rfl

theorem encodeChar_one (a : UInt8) (ha : a.toNat < 0x80) :
    encodeChar (Char.ofNat a.toNat) = [a] := by
  unfold encodeChar
  simp only
  rw [toNat_char (by omega), if_pos ha, UInt8.ofNat_toNat]

theorem encodeChar_two (a b : UInt8) (ha : 0xC2 ≤ a.toNat) (ha' : a.toNat ≤ 0xDF)
    (hb : isContinuation b = true) :
    encodeChar (Char.ofNat ((a.toNat - 0xC0) * 0x40 + tail b)) = [a, b] := by
  rw [isContinuation_iff] at hb
  unfold encodeChar tail
  simp only
  rw [toNat_char (by omega), if_neg (by omega), if_pos (by omega),
    show 0xC0 + ((a.toNat - 0xC0) * 0x40 + (b.toNat - 0x80)) / 0x40 = a.toNat by omega,
    show 0x80 + ((a.toNat - 0xC0) * 0x40 + (b.toNat - 0x80)) % 0x40 = b.toNat by omega,
    UInt8.ofNat_toNat, UInt8.ofNat_toNat]

theorem encodeChar_three (a b c : UInt8) (ha : 0xE0 ≤ a.toNat) (ha' : a.toNat ≤ 0xEF)
    (hb : isSecondOfThree a b = true) (hc : isContinuation c = true) :
    encodeChar (Char.ofNat ((a.toNat - 0xE0) * 0x1000 + tail b * 0x40 + tail c)) = [a, b, c] := by
  rw [isSecondOfThree_iff] at hb
  rw [isContinuation_iff] at hc
  have hn : ∃ n, n = (a.toNat - 0xE0) * 0x1000 + (b.toNat - 0x80) * 0x40 + (c.toNat - 0x80) :=
    ⟨_, rfl⟩
  rcases hn with ⟨n, hn⟩
  unfold encodeChar tail
  simp only
  rw [← hn, toNat_char (by omega), if_neg (by omega), if_neg (by omega), if_pos (by omega),
    show 0xE0 + n / 0x1000 = a.toNat by omega, show 0x80 + n / 0x40 % 0x40 = b.toNat by omega,
    show 0x80 + n % 0x40 = c.toNat by omega, UInt8.ofNat_toNat, UInt8.ofNat_toNat,
    UInt8.ofNat_toNat]

theorem encodeChar_four (a b c d : UInt8) (ha : 0xF0 ≤ a.toNat) (ha' : a.toNat ≤ 0xF4)
    (hb : isSecondOfFour a b = true) (hc : isContinuation c = true)
    (hd : isContinuation d = true) :
    encodeChar (Char.ofNat ((a.toNat - 0xF0) * 0x40000 + tail b * 0x1000 + tail c * 0x40 +
      tail d)) = [a, b, c, d] := by
  rw [isSecondOfFour_iff] at hb
  rw [isContinuation_iff] at hc hd
  have hn : ∃ n, n = (a.toNat - 0xF0) * 0x40000 + (b.toNat - 0x80) * 0x1000 +
      (c.toNat - 0x80) * 0x40 + (d.toNat - 0x80) := ⟨_, rfl⟩
  rcases hn with ⟨n, hn⟩
  unfold encodeChar tail
  simp only
  rw [← hn, toNat_char (by omega), if_neg (by omega), if_neg (by omega), if_neg (by omega),
    show 0xF0 + n / 0x40000 = a.toNat by omega, show 0x80 + n / 0x1000 % 0x40 = b.toNat by omega,
    show 0x80 + n / 0x40 % 0x40 = c.toNat by omega, show 0x80 + n % 0x40 = d.toNat by omega,
    UInt8.ofNat_toNat, UInt8.ofNat_toNat, UInt8.ofNat_toNat, UInt8.ofNat_toNat]

/-- The pieces of a byte string make it up. -/
theorem flatMap_bytes_pieces (bytes : List UInt8) :
    (pieces bytes).flatMap Piece.bytes = bytes := by
  fun_induction pieces bytes with
  | case1 => rfl
  | case2 a r ha ih =>
    rw [List.flatMap_cons, ih, Piece.bytes, encodeChar_one a ((lt_ascii_iff a).mp ha)]
    rfl
  | case3 a _ ha b r hb ih =>
    rw [leadsTwo_iff] at ha
    rw [List.flatMap_cons, ih, Piece.bytes, encodeChar_two a b ha.1 ha.2 hb]
    rfl
  | case6 a _ _ ha b hb c r hc ih =>
    rw [leadsThree_iff] at ha
    rw [List.flatMap_cons, ih, Piece.bytes, encodeChar_three a b c ha.1 ha.2 hb hc]
    rfl
  | case11 a _ _ _ ha b hb c hc d r hd ih =>
    rw [leadsFour_iff] at ha
    rw [List.flatMap_cons, ih, Piece.bytes, encodeChar_four a b c d ha.1 ha.2 hb hc hd]
    rfl
  -- In the other cases a piece keeps the bytes that are broken.
  | _ =>
    simp_all only [List.flatMap_cons, Piece.bytes, List.cons_append, List.nil_append,
      List.flatMap_nil]

theorem encode_cons (c : Char) (cs : List Char) : encode (c :: cs) = encodeChar c ++ encode cs :=
  List.flatMap_cons

theorem encode_append (cs ds : List Char) : encode (cs ++ ds) = encode cs ++ encode ds :=
  List.flatMap_append

theorem encodeChar_ne_nil (c : Char) : encodeChar c ≠ [] := by
  unfold encodeChar
  simp only
  split
  · exact List.cons_ne_nil _ _
  split
  · exact List.cons_ne_nil _ _
  split <;> exact List.cons_ne_nil _ _

/-- Code points end below `0x110000`. -/
theorem toNat_lt (c : Char) : c.toNat < 0x110000 := by
  have hvalid := c.valid
  unfold UInt32.isValidChar Nat.isValidChar at hvalid
  unfold Char.toNat
  omega

/-- An ASCII byte stands for itself only. -/
theorem toNat_of_mem_encodeChar {b : UInt8} {c : Char} (hb : b.toNat < 0x80)
    (h : b ∈ encodeChar c) : c.toNat = b.toNat := by
  -- All bytes of a longer form are from 0x80 on.
  have hlong : ∀ n, 0x80 ≤ n → n < 256 → b ≠ UInt8.ofNat n := by
    rintro n hlow hhigh rfl
    rw [toNat_byte n hhigh] at hb
    omega
  have hc := toNat_lt c
  unfold encodeChar at h
  simp only at h
  split at h
  · rw [List.mem_singleton.mp h, toNat_byte _ (by omega)]
  · exfalso
    split at h
    · simp only [List.mem_cons, List.not_mem_nil, or_false] at h
      rcases h with h | h <;> exact hlong _ (by omega) (by omega) h
    split at h
    · simp only [List.mem_cons, List.not_mem_nil, or_false] at h
      rcases h with h | h | h <;> exact hlong _ (by omega) (by omega) h
    · simp only [List.mem_cons, List.not_mem_nil, or_false] at h
      rcases h with h | h | h | h <;> exact hlong _ (by omega) (by omega) h

/-- A character of ASCII is a byte of a text only if it is a character of the text. -/
theorem notMem_encode {c : Char} (hc : c.toNat < 0x80) {cs : List Char} (h : c ∉ cs) :
    UInt8.ofNat c.toNat ∉ encode cs := by
  intro hbyte
  rcases List.mem_flatMap.mp hbyte with ⟨d, hd, hbyte⟩
  have hnat : (UInt8.ofNat c.toNat).toNat = c.toNat := toNat_byte c.toNat (by omega)
  have heq : d.toNat = c.toNat := by rw [toNat_of_mem_encodeChar (by omega) hbyte, hnat]
  have hsame : d = c := Char.ext (UInt32.toNat_inj.mp heq)
  exact h (hsame ▸ hd)

/-- An encoded text is read back character by character, whatever follows
    it. -/
theorem pieces_encode_append (cs : List Char) (r : List UInt8) :
    pieces (encode cs ++ r) = cs.map Piece.char ++ pieces r := by
  induction cs with
  | nil => rfl
  | cons c cs ih =>
    rw [encode_cons, List.append_assoc, pieces_encodeChar_append, ih]
    rfl

theorem pieces_encode (cs : List Char) : pieces (encode cs) = cs.map Piece.char := by
  have h := pieces_encode_append cs []
  rw [List.append_nil] at h
  rw [h]
  exact List.append_nil _

/-- All pieces are characters exactly if they are those of the result. -/
theorem mapM_char?_eq_some_iff (ps : List Piece) (cs : List Char) :
    ps.mapM Piece.char? = some cs ↔ ps = cs.map Piece.char := by
  induction ps generalizing cs with
  | nil => cases cs <;> simp
  | cons p ps ih =>
    rw [List.mapM_cons]
    cases p with
    | broken bytes => cases cs <;> simp [Piece.char?]
    | char c =>
      cases cs with
      | nil => simp [Piece.char?, Option.bind_eq_some_iff]
      | cons d ds =>
        rw [List.map_cons, List.cons.injEq, Piece.char.injEq, ← ih]
        simp only [Piece.char?, Option.bind_eq_bind, Option.bind_some, Option.pure_def,
          Option.bind_eq_some_iff, Option.some.injEq, List.cons.injEq]
        constructor
        · rintro ⟨es, hes, hcd, rfl⟩
          exact ⟨hcd, hes⟩
        · rintro ⟨hcd, hes⟩
          exact ⟨ds, hes, hcd, rfl⟩

/-- An encoded text decodes to itself. -/
theorem decode?_encode (cs : List Char) : decode? (encode cs) = some cs :=
  (mapM_char?_eq_some_iff _ _).mpr (pieces_encode cs)

/-- A byte string that decodes is the encoding of what it decodes to. -/
theorem encode_of_decode? {bytes : List UInt8} {cs : List Char} (h : decode? bytes = some cs) :
    encode cs = bytes := by
  have hp : pieces bytes = cs.map Piece.char := (mapM_char?_eq_some_iff _ _).mp h
  have hb := flatMap_bytes_pieces bytes
  rw [hp, List.flatMap_map] at hb
  exact hb

/-- What stands behind an encoded text in a byte string that decodes, decodes
    too. -/
theorem exists_of_decode?_append {cs ds : List Char} {r : List UInt8}
    (h : decode? (encode cs ++ r) = some ds) : ∃ es, decode? r = some es := by
  have hp : pieces (encode cs ++ r) = ds.map Piece.char := (mapM_char?_eq_some_iff _ _).mp h
  rw [pieces_encode_append] at hp
  rcases List.map_eq_append_iff.mp hp.symm with ⟨_, es, -, -, hes⟩
  exact ⟨es, (mapM_char?_eq_some_iff _ _).mpr hes.symm⟩

theorem decodeLenient_encode_append (cs : List Char) (r : List UInt8) :
    decodeLenient (encode cs ++ r) = cs ++ decodeLenient r := by
  unfold decodeLenient
  rw [pieces_encode_append, List.map_append, List.map_map]
  congr 1
  exact List.map_id _

/-- A text at the front of what is shown was at the front of the bytes, unless it has
    the replacement character, which may stand for something else. -/
theorem exists_of_decodeLenient_eq_append {bytes : List UInt8} {cs ds : List Char}
    (hcs : '\uFFFD' ∉ cs) (h : decodeLenient bytes = cs ++ ds) :
    ∃ r, bytes = encode cs ++ r ∧ decodeLenient r = ds := by
  rcases List.map_eq_append_iff.mp h with ⟨front, back, hpieces, hfront, hback⟩
  have hchars : front = cs.map Piece.char := by
    rw [← hfront, List.map_map]
    refine (List.map_id front).symm.trans (List.map_congr_left fun piece hpiece => ?_)
    cases piece with
    | char c => rfl
    | broken b => exact absurd (hfront ▸ List.mem_map_of_mem hpiece) hcs
  have hbytes : bytes = encode cs ++ back.flatMap Piece.bytes := by
    rw [← flatMap_bytes_pieces bytes, hpieces, hchars, List.flatMap_append, List.flatMap_map]
    rfl
  rw [hbytes, decodeLenient_encode_append] at h
  exact ⟨_, hbytes, List.append_cancel_left h⟩

end Utf8

namespace OsText

/-- A text is read back from its bytes. -/
@[simp]
theorem text?_ofString (s : String) : (ofString s).text? = some s := by
  unfold text? chars? ofString ofChars
  rw [Utf8.decode?_encode, Option.map_some, String.ofList_toList]

/-- Bytes that have a text are those of the text. -/
theorem ofString_of_text? {t : OsText} {s : String} (h : t.text? = some s) : ofString s = t := by
  rcases Option.map_eq_some_iff.mp h with ⟨cs, hcs, rfl⟩
  unfold ofString ofChars
  rw [String.toList_ofList, Utf8.encode_of_decode? hcs]

theorem text?_eq_some_iff {t : OsText} {s : String} : t.text? = some s ↔ t = ofString s :=
  ⟨fun h => (ofString_of_text? h).symm, fun h => by rw [h, text?_ofString]⟩

/-- Different texts have different bytes. -/
theorem ofString_injective {s t : String} (h : ofString s = ofString t) : s = t := by
  have hs := text?_ofString s
  rw [h, text?_ofString] at hs
  exact (Option.some.inj hs).symm

theorem ofString_append (s t : String) : ofString (s ++ t) = ofString s ++ ofString t := by
  unfold ofString ofChars
  rw [String.toList_append, Utf8.encode_append]
  rfl

/-- What stands behind a text in a byte string that is a text, is a text
    too. -/
theorem exists_ofString_of_append {s t : String} {r : OsText} (h : ofString s ++ r = ofString t) :
    ∃ u, r = ofString u := by
  have ht : (ofString s ++ r).chars? = some t.toList := by
    rw [h]
    exact Utf8.decode?_encode t.toList
  rcases Utf8.exists_of_decode?_append ht with ⟨es, hes⟩
  refine ⟨String.ofList es, text?_eq_some_iff.mp ?_⟩
  unfold text? chars?
  rw [hes]
  rfl

/-- A text at the front of a byte string is shown as it is, whatever bytes
    follow. -/
theorem shownChars_ofString_append (s : String) (t : OsText) :
    (ofString s ++ t).shownChars = s.toList ++ t.shownChars :=
  Utf8.decodeLenient_encode_append s.toList t.bytes

/-- A text at the front of what is shown is there, if it is shown as it is. -/
theorem exists_of_shownChars_eq_append {s : String} {t : OsText} {cs : List Char}
    (hs : '\uFFFD' ∉ s.toList) (h : t.shownChars = s.toList ++ cs) :
    ∃ u, t = ofString s ++ u ∧ u.shownChars = cs := by
  rcases Utf8.exists_of_decodeLenient_eq_append hs h with ⟨r, hr, hshown⟩
  exact ⟨⟨r⟩, congrArg mk hr, hshown⟩

/-- What is shown as a text is that text, if the text is shown as it is. -/
theorem eq_ofString_of_shownChars {s : String} {t : OsText} (hs : '\uFFFD' ∉ s.toList)
    (h : t.shownChars = s.toList) : t = ofString s := by
  rcases exists_of_shownChars_eq_append hs (h.trans (List.append_nil _).symm) with ⟨u, rfl, hu⟩
  have hpieces : Utf8.pieces u.bytes = [] := List.map_eq_nil_iff.mp hu
  have hbytes := Utf8.flatMap_bytes_pieces u.bytes
  rw [hpieces] at hbytes
  exact congrArg mk (by rw [← hbytes]; exact List.append_nil _)

/-- A text is made from what it is shown as. -/
theorem ofChars_shownChars {t : OsText} (h : t.text?.isSome = true) :
    ofChars t.shownChars = t := by
  rcases Option.isSome_iff_exists.mp h with ⟨s, hs⟩
  obtain rfl := text?_eq_some_iff.mp hs
  have hshown := shownChars_ofString_append s empty
  have hempty : ofString s ++ empty = ofString s := congrArg mk (List.append_nil _)
  rw [hempty] at hshown
  rw [hshown]
  exact congrArg ofChars (List.append_nil _)

end OsText

end BrokerClient
