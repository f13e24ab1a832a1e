import BrokerClient.Proofs.Text.Encoding

/-!
# The Order of Encoded Texts

Texts are ordered by their code points, one after the other, and their bytes are in the same
order. The first byte of a character says how many bytes there are, and longer ones are for
greater code points. Among characters of one length the bytes are the digits of the code
point, the leading ones first.

## Theorems

* `Utf8.encodeChar_append_lt`: Where two texts differ first, their bytes do.
* `Utf8.encode_lt_encode`: The bytes of texts are in the order of the texts.
-/

namespace BrokerClient

namespace Utf8

/-- Bytes are compared by the first one, and by the others if the first ones agree. -/
theorem byte_cons_lt {m n : Nat} (hle : m ≤ n) (hn : n < 256) {r s : List UInt8}
    (h : m = n → r < s) : UInt8.ofNat m :: r < UInt8.ofNat n :: s := by
  rw [List.cons_lt_cons_iff]
  rcases Nat.lt_or_eq_of_le hle with hlt | heq
  · left
    rw [UInt8.lt_iff_toNat_lt, toNat_byte m (by omega), toNat_byte n hn]
    exact hlt
  · exact .inr ⟨congrArg UInt8.ofNat heq, h heq⟩

/-- The bytes of the lesser one of two characters come first, whatever follows. -/
theorem encodeChar_append_lt {c d : Char} (h : c < d) (r s : List UInt8) :
    encodeChar c ++ r < encodeChar d ++ s := by
  have hlt : c.toNat < d.toNat := UInt32.lt_iff_toNat_lt.mp h
  have hd : d.toNat < 0x110000 := toNat_lt d
  unfold encodeChar
  generalize c.toNat = m at hlt
  generalize d.toNat = n at hlt hd
  simp only
  -- The length of the lesser one, and that of the greater one.
  by_cases hm₁ : m < 0x80
  · rw [if_pos hm₁]
    split
    · exact byte_cons_lt (by omega) (by omega) (by omega)
    split
    · exact byte_cons_lt (by omega) (by omega) (by omega)
    split <;> exact byte_cons_lt (by omega) (by omega) (by omega)
  rw [if_neg hm₁, if_neg (show ¬n < 0x80 by omega)]
  by_cases hm₂ : m < 0x800
  · rw [if_pos hm₂]
    split
    · exact byte_cons_lt (by omega) (by omega) fun _ =>
        byte_cons_lt (by omega) (by omega) (by omega)
    split <;> exact byte_cons_lt (by omega) (by omega) (by omega)
  rw [if_neg hm₂, if_neg (show ¬n < 0x800 by omega)]
  by_cases hm₃ : m < 0x10000
  · rw [if_pos hm₃]
    split
    · exact byte_cons_lt (by omega) (by omega) fun _ =>
        byte_cons_lt (by omega) (by omega) fun _ => byte_cons_lt (by omega) (by omega) (by omega)
    · exact byte_cons_lt (by omega) (by omega) (by omega)
  · rw [if_neg hm₃, if_neg (show ¬n < 0x10000 by omega)]
    exact byte_cons_lt (by omega) (by omega) fun _ =>
      byte_cons_lt (by omega) (by omega) fun _ =>
        byte_cons_lt (by omega) (by omega) fun _ => byte_cons_lt (by omega) (by omega) (by omega)

/-- The bytes of texts are in the order of the texts. -/
theorem encode_lt_encode {cs ds : List Char} (h : cs < ds) : encode cs < encode ds := by
  induction ds generalizing cs with
  | nil => exact absurd h (List.not_lt_nil cs)
  | cons d ds ih =>
    cases cs with
    | nil =>
      -- Every character has a byte.
      rw [encode_cons]
      rcases hbytes : encodeChar d with _ | ⟨b, bs⟩
      · exact absurd hbytes (encodeChar_ne_nil d)
      · exact List.nil_lt_cons _ _
    | cons c cs =>
      rw [encode_cons, encode_cons]
      rcases List.cons_lt_cons_iff.mp h with hlt | ⟨rfl, hrest⟩
      · exact encodeChar_append_lt hlt _ _
      · exact List.append_left_lt (ih hrest)

end Utf8

end BrokerClient
