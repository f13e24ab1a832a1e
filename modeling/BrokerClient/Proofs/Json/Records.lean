import BrokerClient.Json.Record
import BrokerClient.Proofs.Json.Strings

/-!
# Reading Records of Texts

An object whose fields are texts is written without blanks: each key and its text quoted, a
colon between them, and commas between the fields. The reader of records takes the fields in
their order and gives each text to the field of its name. What remains of the record is what
giving them one after the other leaves (`Json.Record.giveAll?`).

## Main definitions

* `Json.texts`: Texts as fields of an object.
* `Json.Record.giveAll?`: A record with the texts of some fields.

## Theorems

* `Json.readRecordField_fieldBytes`: One field is read.
* `Json.readRecordFields_compactFields`: All fields up to the closing brace are read.
* `Json.readRecord?_compact`: An object of texts is read as a record.
-/

namespace BrokerClient

namespace Json

/-- Texts as fields of an object. -/
def texts (fields : List (String × String)) : List (String × Json) :=
  fields.map fun field => (field.1, .string field.2)

/-- The record with the texts of fields given to it one after the other, if all are known and
    none has a value already. -/
def Record.giveAll? (names : List String) : Record → List (String × String) → Option Record
  | r, [] => some r
  | r, (key, text) :: fields => do
    giveAll? names (← r.give? (← names.idxOf? key) (.string text)) fields

/-! ## One field -/

/-- The bytes of a quoted text in front of others. -/
def quoteBytes (s : String) (rest : List UInt8) : List UInt8 :=
  0x22 :: (Utf8.encode (s.toList.flatMap escapeChar) ++ 0x22 :: rest)

theorem takes_read_quoteBytes (depth : Nat) (s : String) (rest : List UInt8) :
    Takes (read depth (quoteBytes s rest)) (.string s) rest := by
  rcases takes_readString s.toList rest with ⟨t, hread, hvalue, hrest⟩
  have hwith : ∀ array object, Takes (readWith array object 0x22
      (Utf8.encode (s.toList.flatMap escapeChar) ++ 0x22 :: rest)) (.string s) rest := by
    intro array object
    unfold readWith
    simp only [hread, bind, Except.bind]
    refine ⟨_, rfl, ?_, hrest⟩
    rw [hvalue, String.ofList_toList]
  unfold quoteBytes read
  split
  · next hnil => cases hnil
  · next b r hcons =>
    obtain ⟨rfl, rfl⟩ := List.cons.inj hcons
    -- The bound on the depth does not matter to a text.
    cases depth with
    | zero =>
      rcases hwith _ _ with ⟨found, hfound, hvalue, hrest⟩
      rw [hfound]
      exact ⟨_, rfl, hvalue, hrest⟩
    | succ depth =>
      dsimp only
      rcases hwith _ _ with ⟨found, hfound, hvalue, hrest⟩
      rw [hfound]
      exact ⟨_, rfl, hvalue, hrest⟩

/-- The bytes of a field in front of others. -/
def fieldBytes (key text : String) (rest : List UInt8) : List UInt8 :=
  quoteBytes key (0x3A :: quoteBytes text rest)

theorem length_lt_quoteBytes (s : String) (rest : List UInt8) :
    rest.length < (quoteBytes s rest).length := by
  unfold quoteBytes
  simp only [List.length_cons, List.length_append]
  omega

theorem length_lt_fieldBytes (key text : String) (rest : List UInt8) :
    rest.length < (fieldBytes key text rest).length := by
  have hkey := length_lt_quoteBytes key (0x3A :: quoteBytes text rest)
  have htext := length_lt_quoteBytes text rest
  rw [List.length_cons] at hkey
  unfold fieldBytes
  omega

variable {names : List String} {key text : String}

/-- One field with a text is read, if its key is known. -/
theorem readRecordField_fieldBytes {place : Nat} (h : names.idxOf? key = some place) (r : Record)
    (rest : List UInt8) :
    readRecordField names r (fieldBytes key text rest) =
      (r.give? place (.string text)).map fun r => (r, rest) := by
  rcases takes_readString key.toList (0x3A :: quoteBytes text rest) with
    ⟨found, hfound, hkey, hrest⟩
  rcases takes_read_quoteBytes fieldDepthLimit text rest with ⟨value, hvalue, htext, hbehind⟩
  rw [String.ofList_toList] at hkey
  have hcolon : skipBlanks found.rest = 0x3A :: quoteBytes text rest := by
    rw [hrest]
    rfl
  unfold fieldBytes
  rw [quoteBytes, readRecordField]
  simp only [hfound, hcolon, hkey, h, hvalue, Except.toOption, Option.bind_eq_bind,
    Option.bind_some, htext, hbehind]
  cases r.give? place (.string text) <;> rfl

/-! ## All fields -/

variable {fields : List (String × String)}

theorem encode_quote (s : String) (rest : List UInt8) :
    Utf8.encode (quote s).toList ++ rest = quoteBytes s rest := by
  unfold quote quoteChars quoteBytes
  rw [String.toList_ofList, Utf8.encode_append, Utf8.encode_cons]
  simp only [List.append_assoc]
  rfl

theorem encode_field (key text : String) (rest : List UInt8) :
    Utf8.encode (quote key ++ ":" ++ quote text).toList ++ rest = fieldBytes key text rest := by
  rw [String.toList_append, String.toList_append, Utf8.encode_append, Utf8.encode_append,
    List.append_assoc, List.append_assoc, encode_quote, encode_quote]
  rfl

theorem encode_compactFields_single (key text : String) (rest : List UInt8) :
    Utf8.encode (compactFields (texts [(key, text)])).toList ++ rest =
      fieldBytes key text rest :=
  encode_field key text rest

theorem encode_compactFields_cons (key text : String) (field : String × String)
    (fields : List (String × String)) (rest : List UInt8) :
    Utf8.encode (compactFields (texts ((key, text) :: field :: fields))).toList ++ rest =
      fieldBytes key text
        (0x2C :: (Utf8.encode (compactFields (texts (field :: fields))).toList ++ rest)) := by
  have htexts : compactFields (texts ((key, text) :: field :: fields)) =
      quote key ++ ":" ++ quote text ++ "," ++ compactFields (texts (field :: fields)) := rfl
  rw [htexts, String.toList_append, String.toList_append, Utf8.encode_append, Utf8.encode_append,
    List.append_assoc, List.append_assoc, encode_field]
  rfl

theorem skipBlanks_fieldBytes (key text : String) (rest : List UInt8) :
    skipBlanks (fieldBytes key text rest) = fieldBytes key text rest := rfl

theorem Record.giveAll?_cons {place : Nat} (h : names.idxOf? key = some place) (r : Record)
    (fields : List (String × String)) :
    r.giveAll? names ((key, text) :: fields) =
      (r.give? place (.string text)).bind fun r => r.giveAll? names fields := by
  rw [giveAll?, h]
  rfl

/-- The fields of an object of texts are read up to the closing brace, if all are known. -/
theorem readRecordFields_compactFields (hne : fields ≠ [])
    (hknown : ∀ field ∈ fields, field.1 ∈ names) (r : Record) (rest : List UInt8) :
    readRecordFields names r
        (Utf8.encode (compactFields (texts fields)).toList ++ 0x7D :: rest) =
      (r.giveAll? names fields).map fun r => (r, rest) := by
  induction fields generalizing r with
  | nil => exact absurd rfl hne
  | cons field fields ih =>
    obtain ⟨key, text⟩ := field
    rcases List.forall_mem_cons.mp hknown with ⟨hkey, hknown⟩
    obtain ⟨place, hplace⟩ : ∃ place, names.idxOf? key = some place := by
      rw [← Option.isSome_iff_exists, List.isSome_idxOf?]
      exact hkey
    rw [Record.giveAll?_cons hplace]
    cases fields with
    | nil =>
      rw [encode_compactFields_single, readRecordFields, skipBlanks_fieldBytes,
        readRecordField_fieldBytes hplace]
      cases r.give? place (.string text) <;> rfl
    | cons next fields =>
      rw [encode_compactFields_cons, readRecordFields, skipBlanks_fieldBytes,
        readRecordField_fieldBytes hplace]
      cases r.give? place (.string text) with
      | none => rfl
      | some r =>
        -- The next field is behind the comma.
        have hcomma : ∀ next : List UInt8, skipBlanks (0x2C :: next) = 0x2C :: next := fun _ => rfl
        have hshorter := length_lt_fieldBytes key text (0x2C ::
          (Utf8.encode (compactFields (texts (next :: fields))).toList ++ 0x7D :: rest))
        rw [List.length_cons] at hshorter
        simp only [Option.map_some, hcomma]
        rw [if_pos (by omega), ih (List.cons_ne_nil _ _) hknown]
        rfl

/-- The first field begins with a quote. -/
theorem exists_quote_compactFields (hne : fields ≠ []) (rest : List UInt8) :
    ∃ behind, Utf8.encode (compactFields (texts fields)).toList ++ rest = 0x22 :: behind := by
  cases fields with
  | nil => exact absurd rfl hne
  | cons field fields =>
    obtain ⟨key, text⟩ := field
    cases fields with
    | nil =>
      rw [encode_compactFields_single]
      exact ⟨_, rfl⟩
    | cons next fields =>
      rw [encode_compactFields_cons]
      exact ⟨_, rfl⟩

/-- An object of texts is read as the record of its fields, if all are known. -/
theorem readRecord?_compact (hknown : ∀ field ∈ fields, field.1 ∈ names) :
    readRecord? names (Utf8.encode ("\x7b" ++ compactFields (texts fields) ++ "\x7d").toList) =
      Record.giveAll? names (names.map fun _ => none) fields := by
  have hbytes : Utf8.encode ("\x7b" ++ compactFields (texts fields) ++ "\x7d").toList =
      0x7B :: (Utf8.encode (compactFields (texts fields)).toList ++ [0x7D]) := by
    rw [String.toList_append, String.toList_append, Utf8.encode_append, Utf8.encode_append]
    rfl
  have hopening : ∀ s : List UInt8, skipBlanks (0x7B :: s) = 0x7B :: s := fun _ => rfl
  rw [hbytes]
  unfold readRecord?
  simp only [hopening]
  by_cases hne : fields = []
  · subst hne
    rfl
  · rcases exists_quote_compactFields hne [0x7D] with ⟨behind, hquote⟩
    have hfirst : skipBlanks (0x22 :: behind) = 0x22 :: behind := rfl
    have hread := readRecordFields_compactFields hne hknown (names.map fun _ => none) []
    rw [hquote] at hread ⊢
    simp only [hfirst]
    split
    · next hempty => exact absurd (List.cons.inj hempty).1 (by decide)
    · rw [hread]
      cases Record.giveAll? names (names.map fun _ => none) fields <;> rfl

end Json

end BrokerClient
