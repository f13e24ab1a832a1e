import BrokerClient.Proofs.Control
import BrokerClient.Proofs.Text.Parts
import BrokerClient.Url.Parser

/-!
# Characters of Hosts

A host that was read is written with few characters. No label of a domain name holds
a control, a blank or a character that delimits a part of a URL, and the ASCII forms
that labels are written in bring nothing but letters, digits, hyphens and dots. The
numeric hosts add brackets and colons. So no part of the host is taken for another
part of the URL, or for a directory in a path.

Where a scheme of the web was read, there is a host.

## Main definitions

* `Punycode.IsNumeral`: Characters that stand for distances in Punycode.
* `Url.isHostChar`: Characters that hosts are written with.

## Theorems

* `Punycode.mem_encode`: The ASCII form of a text has its characters and numerals.
* `Idna.not_isForbidden_of_toAscii?`: No ASCII form of a domain name has forbidden characters.
* `Url.Host.isHostChar_of_parse`: What hosts that were read are written with.
* `Url.Host.text_ne_empty_of_parse`: No host that was read is empty.
* `Url.of_parseAuthority`: What a URL with a host part consists of.
* `Url.exists_host_of_parse`: A URL of the web has a host that was read.
-/

namespace BrokerClient

/-! ## Punycode -/

namespace Punycode

theorem threshold_le (k bias : Nat) : threshold k bias ≤ greatestThreshold := by
  unfold threshold leastThreshold greatestThreshold
  split
  · omega
  · split <;> omega

/-- The letters and digits that distances are written with. -/
def IsNumeral (c : Char) : Prop := ∃ d < base, c = digitChar d

theorem isNumeral_of_mem_writeDistance {bias k q : Nat} {c : Char}
    (h : c ∈ writeDistance bias k q) : IsNumeral c := by
  have hbase : greatestThreshold < base := by decide
  fun_induction writeDistance bias k q with
  | case1 k q t hlt =>
    obtain rfl := List.mem_singleton.mp h
    have hle : t ≤ greatestThreshold := threshold_le k bias
    exact ⟨q, by omega, rfl⟩
  | case2 k q t hlt hless ih =>
    rcases List.mem_cons.mp h with rfl | h
    -- A digit that does not end the number is a threshold and a remainder.
    · have hle : t ≤ greatestThreshold := threshold_le k bias
      have hmod : (q - t) % (base - t) < base - t := Nat.mod_lt _ (by omega)
      exact ⟨_, by omega, rfl⟩
    · exact ih h

theorem isNumeral_of_mem_insertAll {code : Nat} {text : List Nat} {p : Progress}
    (h : ∀ c ∈ p.reversed, IsNumeral c) : ∀ c ∈ (insertAll code text p).reversed, IsNumeral c := by
  unfold insertAll
  induction text generalizing p with
  | nil => exact h
  | cons n text ih =>
    rw [List.foldl_cons]
    refine ih fun c hc => ?_
    split at hc
    · exact h c hc
    · split at hc
      · rcases List.mem_append.mp hc with hc | hc
        · exact isNumeral_of_mem_writeDistance (List.mem_reverse.mp hc)
        · exact h c hc
      · exact h c hc

theorem isNumeral_of_mem_insertCodes {text : List Nat} {next : Nat} {codes : List Nat}
    {p : Progress} (h : ∀ c ∈ p.reversed, IsNumeral c) :
    ∀ c ∈ (insertCodes text next codes p).reversed, IsNumeral c := by
  induction codes generalizing next p with
  | nil => exact h
  | cons code codes ih =>
    unfold insertCodes
    refine ih ?_
    exact isNumeral_of_mem_insertAll h

/-- The ASCII form of a text has characters of the text, hyphens and numerals. -/
theorem mem_encode {text : List Char} {c : Char} (h : c ∈ encode text) :
    c ∈ text ∨ c = '-' ∨ IsNumeral c := by
  unfold encode at h
  rcases List.mem_append.mp h with h | h
  · split at h
    · cases h
    · rcases List.mem_append.mp h with h | h
      · exact .inl (List.mem_filter.mp h).1
      · exact .inr (.inl (List.mem_singleton.mp h))
  · refine .inr (.inr (isNumeral_of_mem_insertCodes ?_ c (List.mem_reverse.mp h)))
    intro c hc
    cases hc

end Punycode

/-! ## Domain names -/

namespace Idna

theorem not_isForbidden_of_isNumeral {c : Char} (h : Punycode.IsNumeral c) :
    isForbidden c = false := by
  rcases h with ⟨d, hd, rfl⟩
  -- There are as many of them as the base says.
  have hall : ∀ d < Punycode.base, isForbidden (Punycode.digitChar d) = false := by decide
  exact hall d hd

theorem not_isForbidden_of_asciiLabel? {label written : List Char}
    (h : asciiLabel? label = some written) (hlabel : ∀ c ∈ label, isForbidden c = false) :
    ∀ c ∈ written, isForbidden c = false := by
  unfold asciiLabel? at h
  split at h
  · rw [← Option.some.inj h]
    exact hlabel
  · split at h
    · cases h
    · rw [← Option.some.inj h]
      intro c hc
      rcases List.mem_append.mp hc with hc | hc
      · have hmark : asciiMark.all (!isForbidden ·) = true := by decide
        simpa using List.all_eq_true.mp hmark c hc
      · rcases Punycode.mem_encode hc with hc | rfl | hc
        · exact hlabel c hc
        · rfl
        · exact not_isForbidden_of_isNumeral hc

/-- No ASCII form of a domain name has forbidden characters. -/
theorem not_isForbidden_of_toAscii? {name : List UInt8} {written : List Char}
    (h : toAscii? name = some written) : ∀ c ∈ written, isForbidden c = false := by
  unfold toAscii? at h
  rcases Option.bind_eq_some_iff.mp h with ⟨mapped, -, h⟩
  rcases Option.bind_eq_some_iff.mp h with ⟨labels, -, h⟩
  split at h
  · cases h
  · next hforbidden =>
    split at h
    · cases h
    · rcases Option.bind_eq_some_iff.mp h with ⟨parts, hparts, h⟩
      rw [← Option.some.inj h]
      refine forall_mem_intercalate (List.forall_mem_singleton.mpr rfl) fun part hpart => ?_
      -- Each part is the written form of a label that was checked.
      rcases exists_of_mem_mapM hparts hpart with ⟨label, hlabel, hwritten⟩
      refine not_isForbidden_of_asciiLabel? hwritten fun c hc => ?_
      simp only [List.any_eq_true, not_exists, not_and, Bool.not_eq_true] at hforbidden
      exact hforbidden label hlabel c hc

end Idna

/-! ## Hosts -/

namespace Url

/-- The characters that hosts are written with: those of domain names, brackets and
    colons. -/
def isHostChar (c : Char) : Bool := !Idna.isForbidden c || c ∈ ['[', ']', ':']

theorem exists_of_mem_toDigits {b n : Nat} (hb : 1 < b) {c : Char} (h : c ∈ Nat.toDigits b n) :
    ∃ d < b, c = Nat.digitChar d := by
  induction n using Nat.strongRecOn with
  | ind n ih =>
    by_cases hlt : n < b
    · rw [Nat.toDigits_of_lt_base hlt] at h
      exact ⟨n, hlt, List.mem_singleton.mp h⟩
    · have hpos : 0 < n / b := Nat.div_pos (by omega) (by omega)
      have hmod : n % b < b := Nat.mod_lt n (by omega)
      have hsplit := Nat.toDigits_append_toDigits hb hpos hmod
      rw [Nat.div_add_mod] at hsplit
      rw [← hsplit, List.mem_append] at h
      rcases h with h | h
      · exact ih (n / b) (Nat.div_lt_self (by omega) hb) h
      · rw [Nat.toDigits_of_lt_base hmod] at h
        exact ⟨n % b, hmod, List.mem_singleton.mp h⟩

theorem isHostChar_of_mem_toDigits {b n : Nat} (hb : 1 < b) (hle : b ≤ 16) :
    ∀ c ∈ Nat.toDigits b n, isHostChar c = true := by
  intro c hc
  rcases exists_of_mem_toDigits hb hc with ⟨d, hd, rfl⟩
  have hall : ∀ d < 16, isHostChar (Nat.digitChar d) = true := by decide
  exact hall d (by omega)

theorem isHostChar_of_mem_ipv4Text {n : Nat} : ∀ c ∈ ipv4Text n, isHostChar c = true := by
  unfold ipv4Text
  refine forall_mem_intercalate (List.forall_mem_singleton.mpr rfl) fun part hpart => ?_
  rcases List.mem_map.mp hpart with ⟨w, -, rfl⟩
  exact isHostChar_of_mem_toDigits (by decide) (by decide)

theorem isHostChar_of_mem_ipv6Text {pieces : List Nat} :
    ∀ c ∈ ipv6Text pieces, isHostChar c = true := by
  -- Pieces are written the same in front of the gap and behind it.
  have hwrite : ∀ ns : List Nat, ∀ c ∈ List.intercalate [':'] (ns.map fun n => Nat.toDigits 16 n),
      isHostChar c = true := by
    intro ns
    refine forall_mem_intercalate (List.forall_mem_singleton.mpr rfl) fun part hpart => ?_
    rcases List.mem_map.mp hpart with ⟨n, -, rfl⟩
    exact isHostChar_of_mem_toDigits (by decide) (by decide)
  unfold ipv6Text
  dsimp only
  split
  · exact hwrite pieces
  · intro c hc
    rcases List.mem_append.mp hc with hc | hc
    · rcases List.mem_append.mp hc with hc | hc
      · exact hwrite _ c hc
      · have hgap : "::".toList.all isHostChar = true := by decide
        exact List.all_eq_true.mp hgap c hc
    · exact hwrite _ c hc

namespace Host

/-- What was read is an address, or a domain name without forbidden characters. -/
theorem cases_of_parse {cs : List Char} {host : Host} (h : parse cs = .ok host) :
    (∃ pieces, host = .ipv6 pieces) ∨ (∃ n, host = .ipv4 n) ∨
      ∃ name, host = .domain (String.ofList name) ∧ name ≠ [] ∧
        ∀ c ∈ name, Idna.isForbidden c = false := by
  unfold parse at h
  split at h
  · unfold parseBracketed at h
    split at h
    · split at h
      · next pieces _ => exact .inl ⟨pieces, (Except.ok.inj h).symm⟩
      · cases h
    · cases h
  · split at h
    · cases h
    · next name hname =>
      split at h
      · cases h
      · next hempty =>
        split at h
        · split at h
          · next n _ => exact .inr (.inl ⟨n, (Except.ok.inj h).symm⟩)
          · cases h
        · refine .inr (.inr ⟨name, (Except.ok.inj h).symm, ?_, ?_⟩)
          · exact fun hnil => hempty (List.isEmpty_iff.mpr hnil)
          · exact Idna.not_isForbidden_of_toAscii? hname

/-- A host that was read is written with characters of hosts. -/
theorem isHostChar_of_parse {cs : List Char} {host : Host} (h : parse cs = .ok host) :
    ∀ c ∈ host.text.toList, isHostChar c = true := by
  rcases cases_of_parse h with ⟨pieces, rfl⟩ | ⟨n, rfl⟩ | ⟨name, rfl, -, hname⟩
  · intro c hc
    simp only [text, String.toList_append, String.toList_ofList, List.mem_append] at hc
    rcases hc with (hc | hc) | hc
    · have hbracket : "[".toList.all isHostChar = true := by decide
      exact List.all_eq_true.mp hbracket c hc
    · exact isHostChar_of_mem_ipv6Text c hc
    · have hbracket : "]".toList.all isHostChar = true := by decide
      exact List.all_eq_true.mp hbracket c hc
  · rw [text, String.toList_ofList]
    exact isHostChar_of_mem_ipv4Text
  · intro c hc
    rw [text, String.toList_ofList] at hc
    unfold isHostChar
    rw [hname c hc]
    rfl

theorem text_ne_empty_of_parse {cs : List Char} {host : Host} (h : parse cs = .ok host) :
    host.text.toList ≠ [] := by
  rcases cases_of_parse h with ⟨pieces, rfl⟩ | ⟨n, rfl⟩ | ⟨name, rfl, hname, -⟩
  · simp [text]
  · simp [text, ipv4Text]
  · rw [text, String.toList_ofList]
    exact hname

end Host

/-! ## Web addresses -/

theorem scheme_of_parseFile {cs : List Char} {u : Url} (h : parseFile cs = .ok u) :
    u.scheme = "file" := by
  unfold parseFile at h
  dsimp only at h
  split at h
  · split at h
    · split at h
      · rw [← Except.ok.inj h]
      · rcases exists_of_bind_eq_ok h with ⟨host, -, h⟩
        split at h <;> rw [← Except.ok.inj h]
    · rw [← Except.ok.inj h]
  · rw [← Except.ok.inj h]

/-- A URL with a host part has the scheme that stands in front of it. If that is special,
    there is a host that was read, a path by segments, and perhaps a query and a fragment. -/
theorem of_parseAuthority {scheme : String} {cs : List Char} {u : Url}
    (h : parseAuthority scheme cs = .ok u) :
    u.scheme = scheme ∧ (isSpecial scheme = true →
      (∃ cs host, Host.parse cs = .ok host ∧ u.host = some host) ∧
      (u.path = .segments [""] ∨ ∃ cs, u.path = readSegments true false cs) ∧
      ∃ cs, readTail true cs = (u.query, u.fragment)) := by
  unfold parseAuthority at h
  dsimp only at h
  rcases exists_of_bind_eq_ok h with ⟨⟨info, rest⟩, -, h⟩
  dsimp only at h
  split at h
  · cases h
  · split at h
    · next hspecial =>
      rcases exists_of_bind_eq_ok h with ⟨host, hhost, h⟩
      -- An empty host would be left out, but none was read.
      have hdomain : host ≠ .domain "" := by
        rintro rfl
        exact Host.text_ne_empty_of_parse hhost rfl
      split at h
      · cases h
      -- The port behind a colon, or none.
      · split at h <;>
        · rcases exists_of_bind_eq_ok h with ⟨port, -, h⟩
          split at h
          · cases h
          · rw [← Except.ok.inj h, hspecial]
            refine ⟨rfl, fun _ => ⟨⟨_, host, hhost, rfl⟩, ?_, _, rfl⟩⟩
            dsimp only
            split
            · exact .inl rfl
            · right
              split <;> exact ⟨_, rfl⟩
    · next hspecial =>
      rcases exists_of_bind_eq_ok h with ⟨host, -, h⟩
      split at h
      · cases h
      · split at h <;>
        · rcases exists_of_bind_eq_ok h with ⟨port, -, h⟩
          split at h
          · cases h
          · rw [← Except.ok.inj h]
            exact ⟨rfl, fun htrue => absurd htrue hspecial⟩

/-- A URL of the web was read as one with a host part. -/
theorem exists_parseAuthority_of_parse {text : List Char} {u : Url} (h : parse text = .ok u)
    (hscheme : u.scheme = "http" ∨ u.scheme = "https") :
    isSpecial u.scheme = true ∧ ∃ cs, parseAuthority u.scheme cs = .ok u := by
  -- Schemes of the web are special and not those of files.
  have hweb : u.scheme ≠ "file" ∧ isSpecial u.scheme = true := by
    rcases hscheme with hscheme | hscheme <;> rw [hscheme] <;> decide
  refine ⟨hweb.2, ?_⟩
  unfold parse at h
  split at h
  · cases h
  · next scheme rest _ =>
    dsimp only at h
    split at h
    · exact absurd (scheme_of_parseFile h) hweb.1
    · split at h
      · rw [(of_parseAuthority h).1]
        exact ⟨_, h⟩
      · next hspecial =>
        -- Other schemes are those of other URLs.
        split at h
        · rw [(of_parseAuthority h).1] at hweb
          exact absurd hweb.2 hspecial
        · rw [← Except.ok.inj h] at hweb
          exact absurd hweb.2 hspecial

/-- A URL of the web has a host that was read. -/
theorem exists_host_of_parse {text : List Char} {u : Url} (h : parse text = .ok u)
    (hscheme : u.scheme = "http" ∨ u.scheme = "https") :
    ∃ cs host, Host.parse cs = .ok host ∧ u.host = some host := by
  rcases exists_parseAuthority_of_parse h hscheme with ⟨hspecial, cs, hread⟩
  exact ((of_parseAuthority hread).2 hspecial).1

end Url

end BrokerClient
