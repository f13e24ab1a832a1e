import BrokerClient.Proofs.Server.Checks
import BrokerClient.Proofs.Url.Written
import Mathlib.Data.List.Basic

/-!
# The Text Form of Servers

What is written for a server that was read in its text form is read as the same server. Three
things could go wrong. The text is trimmed before it is read, an equals sign in the address
could make a name of what stands in front of it, and a name could be cut at another equals sign
than its own.

A text begins with a character of a name or of a scheme, and it ends with the address, whose
last character is visible. So nothing is trimmed. No name has an equals sign, so it is cut at
its own one. Where no name was given, the first equals sign, if there is any, stands behind the
colon of the scheme, and no name has a colon.

So what was written is read as its name says, and the rest is up to the reader of addresses
(`Server.parse_text_eq`).

## Theorems

* `Server.splitName_of_isGivenName`: A name is cut at its own equals sign.
* `Server.splitName_of_colon`: Nothing with a colon in it is a name.
* `Server.trim_text`: There is nothing to trim.
* `Server.parse_text_eq`: How the text form is read.
* `Server.text_reads_back`: The text form is read back, if the address is.
-/

namespace BrokerClient

namespace Server

/-! ## Names in front of addresses -/

theorem isGraphic_of_isNameChar {c : Char} (h : isNameChar c = true) : Url.isGraphic c = true := by
  unfold isNameChar Char.isAlphanum Char.isAlpha Char.isUpper Char.isLower Char.isDigit at h
  simp only [Bool.or_eq_true, Bool.and_eq_true, decide_eq_true_eq, UInt32.le_iff_toNat_le,
    ge_iff_le] at h
  change (((((65 ≤ c.toNat ∧ c.toNat ≤ 90) ∨ (97 ≤ c.toNat ∧ c.toNat ≤ 122)) ∨
    (48 ≤ c.toNat ∧ c.toNat ≤ 57)) ∨ c = '-') ∨ c = '_') ∨ c = '.' at h
  unfold Url.isGraphic
  simp only [Bool.and_eq_true, decide_eq_true_eq]
  rcases h with (((h | h) | rfl) | rfl) | rfl
  · omega
  · omega
  all_goals decide

theorem isGivenName_iff {cs : List Char} :
    isGivenName cs = true ↔ cs ≠ [] ∧ ∀ c ∈ cs, isNameChar c = true := by
  unfold isGivenName
  rw [Bool.and_eq_true, Bool.not_eq_true', List.isEmpty_eq_false_iff, List.all_eq_true]

/-- A name is cut at its own equals sign, whatever the address is. -/
theorem splitName_of_isGivenName {name : List Char} (h : isGivenName name = true)
    (address : List Char) :
    splitName (name ++ '=' :: address) = (some (String.ofList name), address) := by
  have hequals : '=' ∉ name := fun hmem =>
    absurd ((isGivenName_iff.mp h).2 '=' hmem) (by decide)
  have hsplit : splitOnce '=' (name ++ '=' :: address) = some (name, address) :=
    splitOnce_eq_some.mpr ⟨rfl, hequals⟩
  unfold splitName
  rw [hsplit]
  simp only
  rw [if_pos h]

/-- There is no name where a colon stands in front of all equals signs. -/
theorem splitName_of_colon {front : List Char} (h : '=' ∉ front) (back : List Char) :
    splitName (front ++ ':' :: back) = (none, front ++ ':' :: back) := by
  unfold splitName
  cases hsplit : splitOnce '=' (front ++ ':' :: back) with
  | none => rfl
  | some parts =>
    rcases parts with ⟨name, address⟩
    rcases splitOnce_eq_some.mp hsplit with ⟨heq, -⟩
    -- The colon is part of what stands in front of the equals sign.
    have hcolon : ':' ∈ name := by
      rcases List.append_eq_append_iff.mp heq with ⟨more, rfl, hmore⟩ | ⟨more, rfl, hmore⟩
      · cases more with
        | nil => exact absurd (List.cons.inj hmore).1 (by decide)
        | cons c more =>
          rw [← (List.cons.inj hmore).1]
          exact List.mem_append_right _ List.mem_cons_self
      · cases more with
        | nil => exact absurd (List.cons.inj hmore).1 (by decide)
        | cons c more =>
          rw [← (List.cons.inj hmore).1] at h
          exact absurd (List.mem_append_right _ List.mem_cons_self) h
    have hno : ¬isGivenName name = true := fun hname =>
      absurd ((isGivenName_iff.mp hname).2 ':' hcolon) (by decide)
    simp only
    rw [if_neg hno]

/-! ## Reading what was written -/

variable {text : String} {s : Server}

/-- What is known of a server that was read. -/
theorem of_parse (h : parse text = .ok s) :
    (∃ address, Url.parse address = .ok s.url) ∧
      (∀ name, s.givenName = some name → isGivenName name.toList = true) ∧ s.origin = none := by
  unfold parse at h
  rcases exists_of_bind_eq_ok h with ⟨url, hurl, h⟩
  rcases create_eq_ok_iff.mp h with ⟨-, -, rfl⟩
  refine ⟨⟨_, eq_ok_of_mapError_eq_ok hurl⟩, fun name hname => ?_, rfl⟩
  change (splitName (Unicode.trim text.toList)).1 = some name at hname
  unfold splitName at hname
  split at hname
  · split at hname
    · next hgiven =>
      rw [← Option.some.inj hname, String.toList_ofList]
      exact hgiven
    · cases hname
  · cases hname

theorem toList_text_of_some {name : String} (h : s.givenName = some name) :
    s.text.toList = name.toList ++ '=' :: s.url.serialize.toList := by
  unfold Server.text
  rw [h]
  simp only [String.toList_append, List.append_assoc]
  rfl

theorem toList_text_of_none (h : s.givenName = none) :
    s.text.toList = s.url.serialize.toList := by
  unfold Server.text
  rw [h]

/-- The text form begins with a character of a name or of a scheme. -/
theorem isGraphic_of_head?_text (h : parse text = .ok s) {c : Char}
    (hc : s.text.toList.head? = some c) : Url.isGraphic c = true := by
  cases hname : s.givenName with
  | some name =>
    rcases isGivenName_iff.mp ((of_parse h).2.1 name hname) with ⟨hne, hchars⟩
    rw [toList_text_of_some hname, List.head?_append_of_ne_nil _ hne] at hc
    exact isGraphic_of_isNameChar (hchars c (List.mem_of_head? hc))
  | none =>
    rcases (isWeb_of_parse h).serialize_eq with ⟨rest, hserialize, -⟩
    rw [toList_text_of_none hname, hserialize] at hc
    rcases (isWeb_of_parse h).scheme with hscheme | hscheme
    all_goals
      rw [hscheme] at hc
      obtain rfl : 'h' = c := Option.some.inj hc
      rfl

/-- It ends with a visible character of the address. -/
theorem isGraphic_of_getLast?_text (h : parse text = .ok s) {c : Char}
    (hc : s.text.toList.getLast? = some c) : Url.isGraphic c = true := by
  rcases (of_parse h).1 with ⟨address, hurl⟩
  rcases Url.exists_serialize_eq_append hurl (isWeb_of_parse h).scheme with
    ⟨front, back, hserialize, hvisible, hne⟩
  have htext : ∃ front, s.text.toList = front ++ back := by
    cases hname : s.givenName with
    | some name =>
      rw [toList_text_of_some hname, hserialize]
      exact ⟨name.toList ++ '=' :: front, by simp⟩
    | none => exact ⟨front, by rw [toList_text_of_none hname, hserialize]⟩
  rcases htext with ⟨front, htext⟩
  rw [htext, List.getLast?_append_of_ne_nil _ hne] at hc
  exact hvisible c (List.mem_of_getLast? hc)

/-- There is nothing to trim at what was written. -/
theorem trim_text (h : parse text = .ok s) : Unicode.trim s.text.toList = s.text.toList :=
  Unicode.trimWhere_eq_self
    (fun _ hc => Url.not_isBlank_of_isGraphic (isGraphic_of_head?_text h hc))
    (fun _ hc => Url.not_isBlank_of_isGraphic (isGraphic_of_getLast?_text h hc))

/-- What was written is cut into the name that was given and the address. -/
theorem splitName_text (h : parse text = .ok s) :
    splitName s.text.toList = (s.givenName, s.url.serialize.toList) := by
  rcases of_parse h with ⟨-, hnames, -⟩
  cases hname : s.givenName with
  | some name =>
    rw [toList_text_of_some hname, splitName_of_isGivenName (hnames name hname),
      String.ofList_toList]
  | none =>
    rcases (isWeb_of_parse h).serialize_eq with ⟨rest, hserialize, -⟩
    have hscheme : '=' ∉ s.url.scheme.toList := by
      rcases (isWeb_of_parse h).scheme with hscheme | hscheme <;> rw [hscheme] <;> decide
    rw [toList_text_of_none hname, hserialize]
    exact splitName_of_colon hscheme _

/-- How what was written is read. -/
theorem parse_text_eq (h : parse text = .ok s) :
    parse s.text = (do
      let url ← (Url.parse s.url.serialize.toList).mapError .malformed
      create url s.givenName) := by
  unfold parse
  rw [trim_text h, splitName_text h]

/-- What is written for a server that was read is read as that server, with its name or without
    one, if its address is read as itself. The origin is not written, and there is none. -/
theorem text_reads_back (h : parse text = .ok s)
    (hurl : Url.parse s.url.serialize.toList = .ok s.url) :
    parse s.text = .ok s ∧ s.origin = none := by
  have horigin : s.origin = none := (of_parse h).2.2
  have hcreate : create s.url s.givenName = .ok s := by
    have hpasses : create s.url s.givenName = .ok ⟨s.url, s.givenName, none⟩ := passes_of_parse h
    rw [hpasses, ← horigin]
  refine ⟨?_, horigin⟩
  rw [parse_text_eq h, hurl, mapError_ok]
  exact hcreate

theorem text_reads_back_named :
    let text := " lab=HTTP://me@[::1]:80/./a?b=c\n"
    let s : Server := ⟨⟨"http", "me", none, some (.ipv6 [0, 0, 0, 0, 0, 0, 0, 1]), false, none,
      .segments ["a"], some "b=c", none⟩, some "lab", none⟩
    parse text = .ok s ∧ s.text = "lab=http://me@[::1]/a?b=c" ∧ parse s.text = .ok s ∧
      s.origin = none := by
  intro text s
  have h : parse text = .ok s := by decide +kernel
  exact ⟨h, by decide +kernel, text_reads_back h (by decide +kernel)⟩

end Server

end BrokerClient
