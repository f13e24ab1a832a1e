import BrokerClient.Proofs.Server.Addresses

/-!
# Checked Servers

The text form of a server is read with a check: the scheme of the address must be one of
the web, and there must be a host. The JSON form is read without it. Any address that can
be read is accepted there, so a server may come out that the check would have refused.

The host is not what is missing then. Whatever form an address comes from, it was read by
the same reader, which finds a host in every address of the web. So a server passes the
check exactly if its scheme does (`Server.passes_iff_of_url`).

A server that passes still does when its address has been written out and read again, since
the reader finds the scheme that was written (`Url.scheme_of_serialize`).

## Main definitions

* `Server.Passes`: The check of the text form.

## Theorems

* `Url.scheme_of_parse`: The scheme of an address is the one that it begins with.
* `Server.passes_of_parse`: What was read in text form passes.
* `Server.passes_iff_of_ofJson?`, `Server.passes_iff_of_ofJsonText?`: What was read in JSON
  form passes exactly if the scheme does.
* `Server.passes_of_toJson`: Writing and reading again does no harm.
-/

namespace BrokerClient

/-! ## Schemes -/

namespace Url

/-- The scheme of an address is the one that it begins with. -/
theorem scheme_of_parse {text : List Char} {u : Url} (h : parse text = .ok u) :
    ∃ rest, splitScheme? (significant text) = some (u.scheme.toList, rest) := by
  unfold parse at h
  split at h
  · cases h
  · next scheme rest hsplit =>
    suffices u.scheme = String.ofList scheme from
      ⟨rest, by rw [hsplit, this, String.toList_ofList]⟩
    dsimp only at h
    split at h
    · next hfile => rw [scheme_of_parseFile h, hfile]
    · split at h
      · exact (of_parseAuthority h).1
      · split at h
        · exact (of_parseAuthority h).1
        · rw [← Except.ok.inj h]
          rfl

/-- The scheme of the web that a text begins with is read as such. -/
theorem splitScheme?_of_isWeb {scheme : String} (h : IsWeb scheme) (rest : List Char) :
    ∃ behind, splitScheme? (significant (scheme.toList ++ ':' :: rest)) =
      some (scheme.toList, behind) := by
  rcases Unicode.exists_dropEndWhile_append (p := isMargin) (c := ':') rfl scheme.toList rest with
    ⟨kept, hkept⟩
  refine ⟨kept.filter (!isSkipped ·), ?_⟩
  unfold significant Unicode.trimWhere
  -- There is nothing to drop in front of the scheme or in it.
  have hfront : (scheme.toList ++ ':' :: rest).dropWhile isMargin =
      scheme.toList ++ ':' :: rest := by
    rcases h with rfl | rfl <;> rfl
  rw [hfront, hkept]
  rcases h with rfl | rfl <;> rfl

/-- An address of the web has the same scheme when it is read again. -/
theorem scheme_of_serialize {u u' : Url} (hweb : IsWeb u.scheme)
    (h : parse u.serialize.toList = .ok u') : u'.scheme = u.scheme := by
  have hserialize : ∃ rest, u.serialize.toList = u.scheme.toList ++ ':' :: rest := by
    unfold serialize
    simp only [String.toList_append, List.append_assoc]
    exact ⟨_, rfl⟩
  rcases hserialize with ⟨rest, hserialize⟩
  rcases scheme_of_parse h with ⟨behind, hread⟩
  rcases splitScheme?_of_isWeb hweb rest with ⟨behind', hwritten⟩
  rw [hserialize, hwritten] at hread
  exact String.toList_inj.mp (Prod.mk.inj (Option.some.inj hread)).1.symm

end Url

/-! ## Servers -/

namespace Server

/-- A server passes the check of the text form. -/
def Passes (s : Server) : Prop := create s.url s.givenName = .ok ⟨s.url, s.givenName, none⟩

variable {s s' : Server}

theorem passes_iff : s.Passes ↔ Url.IsWeb s.url.scheme ∧ s.hostname ≠ "" := by
  unfold Passes
  rw [create_eq_ok_iff]
  exact and_congr_right fun _ => and_iff_left rfl

/-- Where an address was read, only its scheme has to be checked. -/
theorem passes_iff_of_url {address : List Char} (h : Url.parse address = .ok s.url) :
    s.Passes ↔ Url.IsWeb s.url.scheme := by
  rw [passes_iff]
  refine ⟨And.left, fun hweb => ⟨hweb, ?_⟩⟩
  rcases Url.exists_host_of_parse h hweb with ⟨cs, host, hparse, hhost⟩
  unfold hostname Url.hostText?
  rw [hhost]
  exact fun hempty => Url.Host.text_ne_empty_of_parse hparse (congrArg String.toList hempty)

/-- What was read in text form passes. -/
theorem passes_of_parse {text : String} (h : parse text = .ok s) : s.Passes := by
  unfold parse at h
  rcases exists_of_bind_eq_ok h with ⟨url, -, h⟩
  rcases create_eq_ok_iff.mp h with ⟨hweb, hhost, rfl⟩
  exact passes_iff.mpr ⟨hweb, hhost⟩

/-! ## JSON form -/

theorem exists_url_of_ofRecord? {r : Json.Record} (h : ofRecord? r = some s) :
    ∃ address givenName origin, r = [some (.string address), givenName, origin] ∧
      Url.parse address.toList = .ok s.url := by
  unfold ofRecord? at h
  split at h
  · next address givenName origin =>
    rcases Option.bind_eq_some_iff.mp h with ⟨url, hurl, h⟩
    rcases Option.bind_eq_some_iff.mp h with ⟨_, -, h⟩
    rcases Option.bind_eq_some_iff.mp h with ⟨_, -, h⟩
    refine ⟨address, givenName, origin, rfl, ?_⟩
    cases hparse : Url.parse address.toList with
    | error e =>
      rw [hparse] at hurl
      cases hurl
    | ok url' =>
      rw [hparse] at hurl
      rw [← Option.some.inj h, Option.some.inj hurl]
  · cases h

theorem passes_iff_of_ofRecord? {r : Json.Record} (h : ofRecord? r = some s) :
    s.Passes ↔ Url.IsWeb s.url.scheme := by
  rcases exists_url_of_ofRecord? h with ⟨address, givenName, origin, -, hurl⟩
  exact passes_iff_of_url hurl

/-- What was read from a document passes exactly if the scheme does. -/
theorem passes_iff_of_ofJson? {document : Json} (h : ofJson? document = some s) :
    s.Passes ↔ Url.IsWeb s.url.scheme := by
  unfold ofJson? at h
  split at h
  · exact passes_iff_of_ofRecord? h
  · split at h
    · cases h
    · exact passes_iff_of_ofRecord? h
  · cases h

/-- So does what was read from a JSON text. -/
theorem passes_iff_of_ofJsonText? {text : String} (h : ofJsonText? text = some s) :
    s.Passes ↔ Url.IsWeb s.url.scheme := by
  rcases Option.bind_eq_some_iff.mp h with ⟨r, -, hr⟩
  exact passes_iff_of_ofRecord? hr

theorem lookup_url_jsonFields (s : Server) :
    KeyedList.lookup "url" (KeyedList.ofList s.jsonFields) = some (.string s.url.serialize) := by
  unfold jsonFields KeyedList.ofList
  cases s.givenName <;> cases s.origin <;>
    simp [KeyedList.lookup_insert]

/-- A server that passes still does when it has been written and read again. -/
theorem passes_of_toJson (hs : s.Passes) (h : ofJson? s.toJson = some s') : s'.Passes := by
  rw [passes_iff_of_ofJson? h]
  rcases exists_url_of_ofRecord? h with ⟨address, givenName, origin, hrecord, hurl⟩
  have haddress : KeyedList.lookup "url" (KeyedList.ofList s.jsonFields) =
      some (.string address) := (List.cons.inj hrecord).1
  rw [lookup_url_jsonFields] at haddress
  obtain rfl : s.url.serialize = address := Json.string.inj (Option.some.inj haddress)
  have hweb := (passes_iff.mp hs).1
  rw [Url.scheme_of_serialize hweb hurl]
  exact hweb

end Server

end BrokerClient
