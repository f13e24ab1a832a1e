import BrokerClient.Proofs.Json.Records
import BrokerClient.Proofs.Server.Addresses
import BrokerClient.Server

/-!
# The JSON Form of Servers

A server is written as an object of two or three texts, and a missing name or note is left out.
The reader of records gives each text to its field, and a field that was not given is a name or
a note that is missing. So the server is read back, as a text and as a document, if its address
is read back from what it is written as.

A server may have been read from much else: an array, an object with fields that nobody knows
or with `null` for what is missing. Nothing of that is kept, and reading what was written gives
the same server again.

## Main definitions

* `Server.jsonTexts`: The texts of the JSON form.
* `Server.record`: The record that the JSON form is.

## Theorems

* `Server.readRecord?_jsonText`: What is written is read as the record.
* `Server.ofRecord?_record`: The record describes the server.
* `Server.json_reads_back`: The JSON form is read back, if the address is.
-/

namespace BrokerClient

namespace Server

/-- The texts of the JSON form that are there, in their order. -/
def jsonTexts (s : Server) : List (String × String) :=
  ("url", s.url.serialize) :: (s.givenName.map fun name => ("aka", name)).toList ++
    (s.origin.map fun note => ("origin", note)).toList

/-- The record of address, name and note. -/
def record (s : Server) : Json.Record :=
  [some (.string s.url.serialize), s.givenName.map .string, s.origin.map .string]

theorem jsonFields_eq (s : Server) : s.jsonFields = Json.texts s.jsonTexts := by
  rcases s with ⟨url, _ | name, _ | note⟩ <;> rfl

theorem giveAll?_jsonTexts (s : Server) :
    Json.Record.giveAll? fieldNames [none, none, none] s.jsonTexts = some s.record := by
  rcases s with ⟨url, _ | name, _ | note⟩ <;> rfl

/-- What is written is read as the record. -/
theorem readRecord?_jsonText (s : Server) :
    Json.readRecord? fieldNames (Utf8.encode s.jsonText.toList) = some s.record := by
  have hknown : ∀ field ∈ s.jsonTexts, field.1 ∈ fieldNames := by
    rcases s with ⟨url, _ | name, _ | note⟩ <;> simp [jsonTexts, fieldNames]
  unfold jsonText
  rw [jsonFields_eq, Json.readRecord?_compact hknown]
  exact giveAll?_jsonTexts s

/-- The fields of the document are those of the record. -/
theorem lookup_toJson (s : Server) :
    fieldNames.map (fun name => KeyedList.lookup name (KeyedList.ofList s.jsonFields)) =
      s.record := by
  rcases s with ⟨url, _ | name, _ | note⟩ <;>
    simp [fieldNames, jsonFields, record, KeyedList.ofList, KeyedList.lookup_insert,
      KeyedList.lookup]

theorem optionalText?_map (text : Option String) :
    optionalText? (text.map .string) = some text := by
  cases text <;> rfl

/-- The record describes the server. -/
theorem ofRecord?_record {s : Server} (h : Url.parse s.url.serialize.toList = .ok s.url) :
    ofRecord? s.record = some s := by
  unfold ofRecord? record
  simp only [h, Except.toOption, optionalText?_map, Option.bind_eq_bind, Option.bind_some]

/-- The text and the document that are written for a server are read as that server, if its
    address is read as itself. So if the server was read from a text or a document of any
    form, reading what is written for it gives the same again. -/
theorem json_reads_back {s : Server} (h : Url.parse s.url.serialize.toList = .ok s.url) :
    ofJsonText? s.jsonText = some s ∧ ofJson? s.toJson = some s ∧
      (∀ text, ofJsonText? text = some s → ofJsonText? s.jsonText = ofJsonText? text) ∧
      ∀ document, ofJson? document = some s → ofJson? s.toJson = ofJson? document := by
  have htext : ofJsonText? s.jsonText = some s := by
    unfold ofJsonText?
    rw [readRecord?_jsonText, Option.bind_some, ofRecord?_record h]
  have hdocument : ofJson? s.toJson = some s := by
    unfold ofJson? toJson Json.ofFields
    dsimp only
    rw [lookup_toJson, ofRecord?_record h]
  exact ⟨htext, hdocument, fun text hread => htext.trans hread.symm,
    fun document hread => hdocument.trans hread.symm⟩

theorem json_reads_back_escaped :
    let text := "\x7b\"x\": [1, \x7b\"y\": \"\\u0041\"\x7d], \"origin\": null, " ++
      "\"aka\": \"l\\u00e4b \\\"1\\\"\\n\\ud83d\\ude00\", \"url\": \"HTTP://[::1]:80\"\x7d"
    let s : Server := ⟨⟨"http", "", none, some (.ipv6 [0, 0, 0, 0, 0, 0, 0, 1]), false, none,
      .segments [""], none, none⟩, some "läb \"1\"\n😀", none⟩
    ofJsonText? text = some s ∧
      s.jsonText = "\x7b\"url\":\"http://[::1]/\",\"aka\":\"läb \\\"1\\\"\\n😀\"\x7d" ∧
      Url.parse s.url.serialize.toList = .ok s.url ∧ ofJsonText? s.jsonText = some s ∧
      ofJson? s.toJson = some s := by
  intro text s
  have h : Url.parse s.url.serialize.toList = .ok s.url := by decide +kernel
  rcases json_reads_back h with ⟨htext, hdocument, -, -⟩
  exact ⟨by decide +kernel, by decide +kernel, h, htext, hdocument⟩

end Server

end BrokerClient
