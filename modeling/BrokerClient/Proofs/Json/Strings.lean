import BrokerClient.Json.Parser
import BrokerClient.Json.Printer
import BrokerClient.Proofs.Text.Encoding

/-!
# Reading Quoted Texts

A text is read back from its quoted form. The printer escapes the quote, the backslash and the
controls, and the reader knows all these escapes (`Json.takes_readEscape`). Of any other
character the reader sees the bytes. Those of an ASCII character are the character itself, and
those of all others are from `0x80` on, so none is a quote, a backslash or a control.

The readers say in their types that the rest is shorter than the text. So what a reader takes
is stated by the value and the rest (`Json.Takes`).

## Main definitions

* `Json.Takes`: A reader takes a value and leaves a rest.

## Theorems

* `Json.takes_readEscape`: The escapes of the printer are read.
* `Json.takes_escapeChar`: A character is read as its bytes.
* `Json.takes_readString`: A quoted text is read back.
-/

namespace BrokerClient

namespace Json

/-- A reader takes a value from the front of a text and leaves the rest. -/
def Takes {α : Type} {s : List UInt8} (found : Except Flaw (Taken α s)) (value : α)
    (rest : List UInt8) : Prop :=
  ∃ t, found = .ok t ∧ t.value = value ∧ t.rest = rest

variable {rest value : List UInt8}

/-! ## Escapes -/

theorem hexValue?_digitChar {d : Nat} (h : d < 16) :
    hexValue? (UInt8.ofNat (Nat.digitChar d).toNat) = some d := by
  have hall : ∀ d < 16, hexValue? (UInt8.ofNat (Nat.digitChar d).toNat) = some d := by decide
  exact hall d h

theorem encodeChar_digitChar {d : Nat} (h : d < 16) :
    Utf8.encodeChar (Nat.digitChar d) = [UInt8.ofNat (Nat.digitChar d).toNat] := by
  have hall : ∀ d < 16, Utf8.encodeChar (Nat.digitChar d) =
      [UInt8.ofNat (Nat.digitChar d).toNat] := by decide
  exact hall d h

/-- The four digits that a control is written with. -/
theorem takes_readFourHex {n : Nat} (h : n < 0x20) (rest : List UInt8) :
    Takes (readFourHex (0x30 :: 0x30 :: UInt8.ofNat (Nat.digitChar (n / 16)).toNat ::
      UInt8.ofNat (Nat.digitChar (n % 16)).toNat :: rest)) n rest := by
  have hzero : hexValue? 0x30 = some 0 := rfl
  unfold readFourHex
  simp only [hzero, hexValue?_digitChar (show n / 16 < 16 by omega),
    hexValue?_digitChar (show n % 16 < 16 by omega)]
  refine ⟨_, rfl, ?_, rfl⟩
  dsimp only
  omega

/-- A code unit that is no surrogate is a character. -/
theorem takes_readUnicodeEscape {n : Nat} {s : List UInt8} (h : Takes (readFourHex s) n rest)
    (hn : n < 0xD800) : Takes (readUnicodeEscape s) (encodeNumber n) rest := by
  rcases h with ⟨first, hread, hvalue, hrest⟩
  unfold readUnicodeEscape
  simp only [hread, bind, Except.bind]
  rw [if_neg (by simp; omega), if_pos (by simp; omega)]
  exact ⟨_, rfl, congrArg encodeNumber hvalue, hrest⟩

/-- The printer escapes the quote, the backslash and the controls. -/
def IsEscaped (c : Char) : Prop := c = '"' ∨ c = '\\' ∨ c.toNat < 0x20

/-- The escapes of the printer are read. -/
theorem takes_readEscape {c : Char} (h : IsEscaped c) :
    ∃ escape, Utf8.encode (escapeChar c) = 0x5C :: escape ∧
      ∀ rest, Takes (readEscape (escape ++ rest)) (Utf8.encodeChar c) rest := by
  rcases h with rfl | rfl | hcontrol
  · exact ⟨[0x22], rfl, fun rest => ⟨_, rfl, rfl, rfl⟩⟩
  · exact ⟨[0x5C], rfl, fun rest => ⟨_, rfl, rfl, rfl⟩⟩
  -- Five controls have short escapes.
  unfold escapeChar
  rw [if_neg (by
    simp only [Bool.or_eq_true, decide_eq_true_eq]
    rintro (rfl | rfl) <;> revert hcontrol <;> decide)]
  split
  · next heq => exact ⟨[0x62], rfl, fun rest => heq ▸ ⟨_, rfl, rfl, rfl⟩⟩
  split
  · next heq => exact ⟨[0x74], rfl, fun rest => heq ▸ ⟨_, rfl, rfl, rfl⟩⟩
  split
  · next heq => exact ⟨[0x6E], rfl, fun rest => heq ▸ ⟨_, rfl, rfl, rfl⟩⟩
  split
  · next heq => exact ⟨[0x66], rfl, fun rest => heq ▸ ⟨_, rfl, rfl, rfl⟩⟩
  split
  · next heq => exact ⟨[0x72], rfl, fun rest => heq ▸ ⟨_, rfl, rfl, rfl⟩⟩
  -- The others are written by number.
  refine ⟨0x75 :: 0x30 :: 0x30 :: UInt8.ofNat (Nat.digitChar (c.toNat / 16)).toNat ::
    [UInt8.ofNat (Nat.digitChar (c.toNat % 16)).toNat], ?_, fun rest => ?_⟩
  · simp only [Utf8.encode_cons, encodeChar_digitChar (show c.toNat / 16 < 16 by omega),
      encodeChar_digitChar (show c.toNat % 16 < 16 by omega)]
    rfl
  · rcases takes_readUnicodeEscape (takes_readFourHex hcontrol rest) (by omega) with
      ⟨t, hread, hvalue, hrest⟩
    have hchar : encodeNumber c.toNat = Utf8.encodeChar c :=
      congrArg Utf8.encodeChar (Char.ofNat_toNat c)
    refine ⟨⟨t.value, t.rest, Nat.lt_succ_of_lt t.shorter⟩, ?_, hvalue.trans hchar, hrest⟩
    unfold readEscape
    simp only [List.cons_append, List.nil_append, hread, bind, Except.bind]
    rfl

/-! ## Characters -/

/-- Any other character stands for itself. -/
theorem escapeChar_of_not_isEscaped {c : Char} (h : ¬IsEscaped c) : escapeChar c = [c] := by
  rcases not_or.mp h with ⟨hquote, h⟩
  rcases not_or.mp h with ⟨hbackslash, hcontrol⟩
  have hne : ∀ d : Char, d.toNat < 0x20 → c ≠ d := by
    rintro d hd rfl
    omega
  unfold escapeChar
  rw [if_neg (by simp [hquote, hbackslash]), if_neg (hne _ (by decide)), if_neg (hne _ (by decide)),
    if_neg (hne _ (by decide)), if_neg (hne _ (by decide)), if_neg (hne _ (by decide)),
    if_neg (by omega)]

/-- The bytes of a string that stand for themselves. -/
def IsPlainByte (b : UInt8) : Prop := b ≠ 0x22 ∧ b ≠ 0x5C ∧ ¬b < 0x20

theorem isPlainByte_of_mem_encodeChar {c : Char} (h : ¬IsEscaped c) {b : UInt8}
    (hb : b ∈ Utf8.encodeChar c) : IsPlainByte b := by
  -- A byte of ASCII is the character.
  have hnat : b.toNat < 0x80 → c.toNat = b.toNat := fun hlt => Utf8.toNat_of_mem_encodeChar hlt hb
  refine ⟨?_, ?_, fun hlt => ?_⟩
  · rintro rfl
    exact h (.inl (Char.toNat_inj.mp (hnat (by decide))))
  · rintro rfl
    exact h (.inr (.inl (Char.toNat_inj.mp (hnat (by decide)))))
  · have hlt : b.toNat < 0x20 := UInt8.lt_iff_toNat_lt.mp hlt
    exact h (.inr (.inr (by rw [hnat (by omega)]; exact hlt)))

theorem takes_readStringBytes_nil (rest : List UInt8) :
    Takes (readStringBytes (0x22 :: rest)) [] rest := by
  rw [readStringBytes]
  exact ⟨_, rfl, rfl, rfl⟩

theorem takes_readStringBytes_cons {b : UInt8} (hb : IsPlainByte b) {s : List UInt8}
    (h : Takes (readStringBytes s) value rest) :
    Takes (readStringBytes (b :: s)) (b :: value) rest := by
  rcases h with ⟨t, hread, hvalue, hrest⟩
  rw [readStringBytes, if_neg hb.1, if_neg hb.2.1, if_neg hb.2.2, hread]
  exact ⟨_, rfl, congrArg (b :: ·) hvalue, hrest⟩

theorem takes_readStringBytes_append {bytes : List UInt8} (hbytes : ∀ b ∈ bytes, IsPlainByte b)
    {s : List UInt8} (h : Takes (readStringBytes s) value rest) :
    Takes (readStringBytes (bytes ++ s)) (bytes ++ value) rest := by
  induction bytes with
  | nil => exact h
  | cons b bytes ih =>
    rcases List.forall_mem_cons.mp hbytes with ⟨hb, hbytes⟩
    exact takes_readStringBytes_cons hb (ih hbytes)

theorem takes_readStringBytes_escape {escape bytes s : List UInt8}
    (hescape : Takes (readEscape escape) bytes s) (h : Takes (readStringBytes s) value rest) :
    Takes (readStringBytes (0x5C :: escape)) (bytes ++ value) rest := by
  rcases hescape with ⟨e, he, rfl, rfl⟩
  rcases h with ⟨t, hread, hvalue, hrest⟩
  rw [readStringBytes, if_neg (by decide), if_pos rfl, he]
  simp only [bind, Except.bind, hread]
  exact ⟨_, rfl, congrArg (e.value ++ ·) hvalue, hrest⟩

/-- A character is read as its bytes, escaped or not. -/
theorem takes_escapeChar (c : Char) {s : List UInt8} (h : Takes (readStringBytes s) value rest) :
    Takes (readStringBytes (Utf8.encode (escapeChar c) ++ s)) (Utf8.encodeChar c ++ value)
      rest := by
  by_cases hescaped : IsEscaped c
  · rcases takes_readEscape hescaped with ⟨escape, hencode, hread⟩
    rw [hencode]
    exact takes_readStringBytes_escape (hread s) h
  · rw [escapeChar_of_not_isEscaped hescaped, Utf8.encode_cons, Utf8.encode, List.flatMap_nil,
      List.append_nil]
    exact takes_readStringBytes_append (fun b => isPlainByte_of_mem_encodeChar hescaped) h

/-! ## Texts -/

theorem takes_readStringBytes (cs : List Char) (rest : List UInt8) :
    Takes (readStringBytes (Utf8.encode (cs.flatMap escapeChar) ++ 0x22 :: rest))
      (Utf8.encode cs) rest := by
  induction cs with
  | nil => exact takes_readStringBytes_nil rest
  | cons c cs ih =>
    rw [List.flatMap_cons, Utf8.encode_append, List.append_assoc, Utf8.encode_cons]
    exact takes_escapeChar c ih

/-- A quoted text is read back behind its opening quote. -/
theorem takes_readString (cs : List Char) (rest : List UInt8) :
    Takes (readString (Utf8.encode (cs.flatMap escapeChar) ++ 0x22 :: rest))
      (String.ofList cs) rest := by
  rcases takes_readStringBytes cs rest with ⟨t, hread, hvalue, hrest⟩
  unfold readString
  rw [hread]
  simp only [bind, Except.bind, hvalue, Utf8.decode?_encode]
  exact ⟨_, rfl, rfl, hrest⟩

end Json

end BrokerClient
