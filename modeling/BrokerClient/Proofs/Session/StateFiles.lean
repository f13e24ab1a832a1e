import BrokerClient.Proofs.Files.Siblings
import BrokerClient.Proofs.Text.Encoding
import BrokerClient.StateDirectory

/-!
# Names of State Files

The files of a server stand in the state directory under two names that are made
from the key of the server. Such a name is a single segment, whatever the address
is, since the key has no slashes. So all state files are files of one directory.

The name of a cookie file is never the name of an inventory. Two servers have the
same names if they have the same key, and the key is the address without colons,
slashes and blanks. It does not always tell addresses apart: `http://[::12]/` and
`http://[1::2]/` have the same one.

## Main definitions

* `StateDirectory.fileName`: The name of a file of a server, by kind.
* `StateDirectory.cookiesName`, `StateDirectory.inventoryName`: The two kinds.

## Theorems

* `StateDirectory.isName_fileName`: State files are entries of the state directory.
* `StateDirectory.fileName_inj`: Names of one kind differ if the keys do.
* `StateDirectory.cookiesName_ne_inventoryName`: No cookie file is an inventory.
* `StateDirectory.cookiesPath_inj`, `StateDirectory.inventoryPath_inj`: So do the paths.
* `StateDirectory.cookiesPath_ne_inventoryPath`: And so do the paths of the two kinds.
-/

namespace BrokerClient

namespace Server

theorem slash_notMem_fileKey (s : Server) : '/' ∉ s.fileKey.toList := by
  unfold fileKey
  rw [String.toList_ofList]
  intro h
  have hkept := (List.mem_filter.mp h).2
  simp at hkept

end Server

namespace StateDirectory

/-- The name of a file of a server. The front says what the file holds. -/
def fileName (front : String) (s : Server) : OsText := (front ++ s.fileKey ++ ".json" : String)

/-- The name of the file with the cookies of a server. -/
def cookiesName (s : Server) : OsText := fileName "cookies-" s

/-- The name of the inventory of a server. -/
def inventoryName (s : Server) : OsText := fileName "targets-" s

theorem cookiesPath_eq (d : StateDirectory) (s : Server) :
    d.cookiesPath s = Path.join d.path (cookiesName s) := rfl

/-- A name whose front begins with a letter and has no slash is a single
    segment. -/
theorem isName_fileName {front : String} (s : Server) {b : UInt8} {rest : List UInt8}
    (hfront : Utf8.encode front.toList = b :: rest) (hdot : b ≠ Path.dot)
    (hslash : '/' ∉ front.toList) : Path.IsName (fileName front s).bytes := by
  have hbytes : (fileName front s).bytes =
      b :: (rest ++ Utf8.encode (s.fileKey ++ ".json").toList) := by
    change Utf8.encode (front ++ s.fileKey ++ ".json").toList = _
    rw [String.append_assoc, String.toList_append, Utf8.encode_append, hfront, List.cons_append]
  -- Neither the front, nor the key, nor the ending has a slash.
  have hnotMem : '/' ∉ (front ++ s.fileKey ++ ".json").toList := by
    rw [String.toList_append, String.toList_append, List.mem_append, List.mem_append]
    rintro ((h | h) | h)
    · exact hslash h
    · exact s.slash_notMem_fileKey h
    · exact absurd h (by decide)
  -- What begins with another character is not the name of a directory above.
  have hne : ∀ tail, (fileName front s).bytes ≠ Path.dot :: tail := by
    intro tail h
    rw [hbytes] at h
    exact hdot (List.cons.inj h).1
  refine ⟨?_, hne [], hne [Path.dot], Utf8.notMem_encode (by decide) hnotMem⟩
  rw [hbytes]
  exact List.cons_ne_nil _ _

theorem isName_cookiesName (s : Server) : Path.IsName (cookiesName s).bytes :=
  isName_fileName s rfl (by decide) (by decide)

theorem isName_inventoryName (s : Server) : Path.IsName (inventoryName s).bytes :=
  isName_fileName s rfl (by decide) (by decide)

theorem fileName_inj {front : String} {s s' : Server} :
    fileName front s = fileName front s' ↔ s.fileKey = s'.fileKey := by
  constructor
  · intro h
    have htext := congrArg String.toList (OsText.ofString_injective h)
    -- Front and ending are the same on both sides.
    simp only [String.toList_append, List.append_assoc, List.append_cancel_left_eq,
      List.append_cancel_right_eq] at htext
    exact String.toList_inj.mp htext
  · intro h
    unfold fileName
    rw [h]

theorem cookiesName_ne_inventoryName (s s' : Server) : cookiesName s ≠ inventoryName s' := by
  intro h
  have htext := congrArg String.toList (OsText.ofString_injective h)
  simp only [String.toList_append, List.append_assoc] at htext
  -- The first letters differ.
  exact absurd (congrArg List.head? htext) (by simp)

/-- What is joined to a directory can be told from the path. -/
theorem join_inj {base : Path} {name name' : OsText} (hname : Path.IsName name.bytes)
    (hname' : Path.IsName name'.bytes) :
    Path.join base name = Path.join base name' ↔ name = name' := by
  constructor
  · intro h
    -- Both paths have the segments of the directory, and then the name.
    have hsegments := congrArg (fun p : Path => Path.segments p.bytes) h
    simp only [Path.segments_join_name base hname, Path.segments_join_name base hname'] at hsegments
    have hlast := List.append_cancel_left hsegments
    exact congrArg OsText.mk (List.cons.inj hlast).1
  · rintro rfl
    rfl

/-- Two servers have the same cookie file exactly if they have the same key. -/
theorem cookiesPath_inj (d : StateDirectory) {s s' : Server} :
    d.cookiesPath s = d.cookiesPath s' ↔ s.fileKey = s'.fileKey :=
  (join_inj (isName_cookiesName s) (isName_cookiesName s')).trans fileName_inj

theorem inventoryPath_inj (d : StateDirectory) {s s' : Server} :
    d.inventoryPath s = d.inventoryPath s' ↔ s.fileKey = s'.fileKey :=
  (join_inj (isName_inventoryName s) (isName_inventoryName s')).trans fileName_inj

theorem cookiesPath_ne_inventoryPath (d : StateDirectory) (s s' : Server) :
    d.cookiesPath s ≠ d.inventoryPath s' := fun h =>
  cookiesName_ne_inventoryName s s'
    ((join_inj (isName_cookiesName s) (isName_inventoryName s')).mp h)

end StateDirectory

end BrokerClient
