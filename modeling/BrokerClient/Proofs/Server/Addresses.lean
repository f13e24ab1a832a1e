import BrokerClient.Proofs.Text.Trimming
import BrokerClient.Proofs.Url.Hosts
import BrokerClient.Session.Broker
import Mathlib.Data.List.TakeWhile

/-!
# Addresses and Names of Servers

A server that was read in its text form has an address of the web: `http` or `https`,
two slashes, and a host. The host holds no slashes, so the first slash of the address
is one of these two, and nothing stands before it but the scheme and its colon.

A server that was given no name goes by the first label of its host and its port. No
digit is an underscore, so both can be read off the name again. But the rest of the
host is not in the name, and neither are the scheme, the path, or whether the usual
port was written out.

Names and addresses can be told apart: in front of the first slash of a name, or of
anything that begins with a name and a slash, there is an underscore.

## Main definitions

* `Url.IsWeb`: The schemes of the web.
* `Server.IsWeb`: The address is one of the web, with a host that was read.
* `Server.firstLabel`, `Server.portNumber`: What a server is named after.
* `Server.atPieces`: The server at an IPv6 address.

## Theorems

* `Server.create_eq_ok_iff`: The check that servers in text form have passed.
* `Server.isWeb_of_parse`: Servers in text form have addresses of the web.
* `Server.derivedName_inj`: Names are equal if the first labels and the ports are.
* `Server.slash_notMem_derivedName`: Names have no slashes.
* `Broker.withoutSlashes_serialize_ne`: No address begins like a name.
-/

namespace BrokerClient

/-- The schemes of the web. -/
def Url.IsWeb (scheme : String) : Prop := scheme = "http" ∨ scheme = "https"

namespace Server

/-- A server at an address of the web, with a host that was read. -/
structure IsWeb (s : Server) : Prop where
  scheme : s.url.scheme = "http" ∨ s.url.scheme = "https"
  host : ∃ cs host, Url.Host.parse cs = .ok host ∧ s.url.host = some host

/-- The first label of the host, which is all of an address in brackets. -/
def firstLabel (s : Server) : String := String.ofList (s.hostname.toList.takeWhile (· ≠ '.'))

/-- The port, or the usual one. -/
def portNumber (s : Server) : Nat := s.url.port.getD usualPort

/-- The server at an IPv6 address, without a port or anything else in its address. -/
def atPieces (pieces : List Nat) : Server :=
  ⟨⟨"http", "", none, some (.ipv6 pieces), false, none, .segments [""], none, none⟩, none, none⟩

/-- The check of the text form. -/
theorem create_eq_ok_iff {url : Url} {givenName : Option String} {s : Server} :
    create url givenName = .ok s ↔
      Url.IsWeb url.scheme ∧ url.hostText?.getD "" ≠ "" ∧ s = ⟨url, givenName, none⟩ := by
  unfold create Url.IsWeb
  split
  · next hscheme =>
    refine ⟨nofun, fun h => absurd h.1 ?_⟩
    simpa using hscheme
  · next hscheme =>
    split
    · next hempty =>
      refine ⟨nofun, fun h => absurd ?_ h.2.1⟩
      simpa using hempty
    · next hempty =>
      constructor
      · intro h
        refine ⟨?_, ?_, (Except.ok.inj h).symm⟩
        · simpa [Decidable.or_iff_not_imp_left] using hscheme
        · simpa using hempty
      · rintro ⟨-, -, rfl⟩
        rfl

theorem isWeb_of_parse {text : String} {s : Server} (h : parse text = .ok s) : s.IsWeb := by
  unfold parse at h
  rcases exists_of_bind_eq_ok h with ⟨url, hurl, h⟩
  rcases create_eq_ok_iff.mp h with ⟨hweb, -, rfl⟩
  exact ⟨hweb, Url.exists_host_of_parse (eq_ok_of_mapError_eq_ok hurl) hweb⟩

variable {s s' : Server}

theorem IsWeb.isHostChar (h : s.IsWeb) : ∀ c ∈ s.hostname.toList, Url.isHostChar c = true := by
  rcases h.host with ⟨cs, host, hparse, hhost⟩
  unfold hostname Url.hostText?
  rw [hhost]
  exact Url.Host.isHostChar_of_parse hparse

/-! ## Names -/

theorem toList_derivedName (s : Server) :
    s.derivedName.toList = s.firstLabel.toList ++ '_' :: Nat.toDigits 10 s.portNumber := by
  unfold derivedName
  rw [Nat.toString_eq_ofList_toDigits]
  simp [firstLabel, portNumber]

/-- Names are equal exactly if the first labels and the ports are. -/
theorem derivedName_inj :
    s.derivedName = s'.derivedName ↔
      s.firstLabel = s'.firstLabel ∧ s.portNumber = s'.portNumber := by
  constructor
  · intro h
    -- Read from behind, a name is cut at its first underscore.
    have hcut : ∀ s : Server, splitOnce '_' s.derivedName.toList.reverse =
        some ((Nat.toDigits 10 s.portNumber).reverse, s.firstLabel.toList.reverse) := by
      intro s
      rw [splitOnce_eq_some, toList_derivedName]
      refine ⟨by simp, fun hmem => ?_⟩
      exact Nat.underscore_not_in_toDigits (List.mem_reverse.mp hmem)
    have hparts := hcut s
    rw [h, hcut s'] at hparts
    rcases Prod.mk.inj (Option.some.inj hparts) with ⟨hport, hlabel⟩
    refine ⟨String.toList_inj.mp (List.reverse_inj.mp hlabel.symm), ?_⟩
    -- Digits say what number they were made from.
    rw [← Nat.ofDigitChars_ten_toDigits (n := s.portNumber), ← List.reverse_inj.mp hport,
      Nat.ofDigitChars_ten_toDigits]
  · rintro ⟨hlabel, hport⟩
    refine String.toList_inj.mp ?_
    rw [toList_derivedName, toList_derivedName, hlabel, hport]

theorem slash_notMem_derivedName (h : s.IsWeb) : '/' ∉ s.derivedName.toList := by
  rw [toList_derivedName, List.mem_append, List.mem_cons]
  rintro (hmem | hmem | hmem)
  -- The label is part of the host.
  · rw [firstLabel, String.toList_ofList] at hmem
    have hslash := h.isHostChar '/' ((List.takeWhile_prefix _).subset hmem)
    exact absurd hslash (by decide)
  · exact absurd hmem (by decide)
  · exact absurd (Nat.isDigit_of_mem_toDigits (by decide) (by decide) hmem) (by decide)

theorem underscore_mem_derivedName (s : Server) : '_' ∈ s.derivedName.toList := by
  rw [toList_derivedName]
  simp

/-! ## Addresses -/

/-- The first slashes of an address stand right behind its scheme, and something else
    comes behind them. -/
theorem IsWeb.serialize_eq (h : s.IsWeb) :
    ∃ rest, s.url.serialize.toList = s.url.scheme.toList ++ ':' :: '/' :: '/' :: rest ∧
      ∃ c ∈ rest, c ≠ '/' := by
  rcases h.host with ⟨cs, host, hparse, hhost⟩
  rcases List.exists_mem_of_ne_nil _ (Url.Host.text_ne_empty_of_parse hparse) with ⟨c, hc⟩
  -- This character of the host is the one behind the slashes.
  have hne : c ≠ '/' := by
    rintro rfl
    exact absurd (Url.Host.isHostChar_of_parse hparse '/' hc) (by decide)
  unfold Url.serialize Url.authorityText
  rw [hhost]
  simp only [String.toList_append, List.append_assoc]
  refine ⟨_, rfl, c, ?_, hne⟩
  simp [hc]

end Server

namespace Broker

theorem isPrefix_withoutSlashes (text : String) : withoutSlashes text <+: text.toList :=
  Unicode.isPrefix_dropEndWhile _ _

/-- Slashes are only dropped behind the last other character. -/
theorem withoutSlashes_of_mem {text : String} {front back : List Char}
    (h : text.toList = front ++ back) (hback : ∃ c ∈ back, c ≠ '/') :
    front <+: withoutSlashes text := by
  unfold withoutSlashes Unicode.dropEndWhile
  -- The other character ends the dropping before the front is reached.
  have hkept : (back.reverse.dropWhile (· = '/')).isEmpty = false := by
    rcases hback with ⟨c, hc, hne⟩
    rw [Bool.eq_false_iff, ne_eq, List.isEmpty_iff, List.dropWhile_eq_nil_iff]
    intro hall
    exact hne (by simpa using hall c (List.mem_reverse.mpr hc))
  rw [h, List.reverse_append, List.dropWhile_append, hkept, if_neg Bool.false_ne_true,
    List.reverse_append, List.reverse_reverse]
  exact List.prefix_append _ _

/-- No address begins like a name, with an underscore in front of its first slash. -/
theorem withoutSlashes_serialize_ne {s : Server} (h : s.IsWeb) {text : String}
    {front back : List Char} (htext : text.toList = front ++ back) (hslash : '/' ∉ front)
    (hunderscore : '_' ∈ front) : withoutSlashes s.url.serialize ≠ withoutSlashes text := by
  intro heq
  rcases h.serialize_eq with ⟨rest, hserialize, hrest⟩
  -- A text that is this address up to slashes at its end begins as it does.
  have hprefix : s.url.scheme.toList ++ [':', '/', '/'] <+: text.toList := by
    refine List.IsPrefix.trans ?_ (isPrefix_withoutSlashes text)
    rw [← heq]
    refine withoutSlashes_of_mem ?_ hrest
    rw [hserialize]
    simp
  rcases hprefix with ⟨tail, htail⟩
  have hname : '_' ∈ text.toList.takeWhile (· ≠ '/') := by
    rw [htext, List.takeWhile_append_of_pos (forall_ne_of_notMem hslash)]
    exact List.mem_append_left _ hunderscore
  -- Only the scheme and its colon stand in front of the slashes of an address.
  rw [← htail] at hname
  rcases h.scheme with hscheme | hscheme <;> rw [hscheme] at hname <;> simp at hname

end Broker

end BrokerClient
