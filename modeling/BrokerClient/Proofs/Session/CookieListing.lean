import BrokerClient.Cookies
import BrokerClient.Proofs.Json.DottedListing

/-!
# Cookie Listings

Cookies are listed with a line each: the name, a colon and the value. Documents are listed by
their leaves. Cookies make a document too, the object that holds their values as texts under
their names, and the listing of that object comes to the same text.

The names do not matter for it. A name with dots is one step and is written as it is. An empty
name is harmless, although an empty path is taken for the outside, because there is nothing below
it (`Json.dotted_eq_of_outer`). Nor does it matter how the object was made: its fields are in the
order of their keys, so it is enough that the same is found in it.

## Main definitions

* `Cookies.leaf`: A cookie as a leaf of a document.

## Theorems

* `Json.leaves_of_flat`: The leaves of an object that holds nothing but leaves.
* `Cookies.listing_eq_endLines`: The listing has a line for every cookie.
* `Cookies.listing_eq_dotted`: The listing of cookies is that of their document.
-/

namespace BrokerClient

namespace Json

variable {fields : List (String × Json)}

/-- An object that holds nothing but leaves has one leaf for each field, one step away. -/
theorem leaves_of_flat (h : ∀ field ∈ fields, field.2.isLeaf = true) :
    (object fields).leaves = fields.map fun field => ⟨[field.1], leafText? field.2⟩ := by
  have hleaf : ∀ field ∈ fields, field.2.leaves.map (Leaf.below field.1) =
      [⟨[field.1], leafText? field.2⟩] := by
    intro field hfield
    rw [leaves_of_isLeaf (h field hfield)]
    rfl
  rw [leaves, leavesOfFields_eq, List.map_eq_flatMap, List.flatMap_def, List.flatMap_def,
    List.map_congr_left hleaf]

/-- Such an object is listed with a line for each leaf, whatever its keys are. -/
theorem dotted_of_flat (h : ∀ field ∈ fields, field.2.isLeaf = true) :
    dotted (object fields) = endLines ((object fields).leaves.map Leaf.line) := by
  refine dotted_eq_of_outer fun c hchild _ => ?_
  rcases List.mem_map.mp hchild with ⟨field, hfield, rfl⟩
  exact h field hfield

end Json

namespace Cookies

/-- A cookie as a leaf of a document: its name leads to its value. -/
def leaf (cookie : String × String) : Json.Leaf := ⟨[cookie.1], some cookie.2⟩

theorem line_leaf (cookie : String × String) :
    (leaf cookie).line = cookie.1 ++ ": " ++ cookie.2 := by
  have hpath : String.intercalate "." [cookie.1] = cookie.1 := String.intercalate_singleton
  have hcolon : (": " : String) = ":" ++ " " := rfl
  unfold leaf Json.Leaf.line
  rw [hpath, hcolon, Option.elim_some]
  simp only [String.append_assoc]

/-- The listing has a line for every cookie, in their order. -/
theorem listing_eq_endLines (cookies : Cookies) :
    listing cookies = endLines ((cookies.map leaf).map Json.Leaf.line) := by
  unfold listing endLines
  rw [List.map_map, List.map_map]
  refine congrArg String.join (List.map_congr_left fun cookie _ => ?_)
  exact congrArg (· ++ "\n") (line_leaf cookie).symm

theorem isLeaf_of_mem_toJson {cookies : Cookies} :
    ∀ field ∈ cookies.map (fun cookie => (cookie.1, Json.string cookie.2)),
      field.2.isLeaf = true := by
  intro field hfield
  rcases List.mem_map.mp hfield with ⟨cookie, -, rfl⟩
  rfl

/-- The leaves of the document of cookies are the cookies. -/
theorem leaves_toJson (cookies : Cookies) : (toJson cookies).leaves = cookies.map leaf := by
  unfold toJson
  rw [Json.leaves_of_flat isLeaf_of_mem_toJson, List.map_map]
  rfl

/-- So it is listed with a line for every cookie. -/
theorem dotted_toJson (cookies : Cookies) :
    Json.dotted (toJson cookies) = endLines ((toJson cookies).leaves.map Json.Leaf.line) :=
  Json.dotted_of_flat isLeaf_of_mem_toJson

/-- There is one object only that has the values of cookies under their names. -/
theorem object_eq_toJson {cookies : Cookies} (hcookies : KeyedList.Ascending cookies)
    {fields : List (String × Json)} (hfields : KeyedList.Ascending fields)
    (hsame : ∀ name,
      KeyedList.lookup name fields = (KeyedList.lookup name cookies).map Json.string) :
    Json.object fields = toJson cookies := by
  refine congrArg Json.object (KeyedList.eq_of_lookup_eq hfields ?_ fun name => ?_)
  · exact KeyedList.ascending_map_snd hcookies
  · rw [hsame name, KeyedList.lookup_map_snd Json.string]

/-- The listing of cookies is the listing of the object that has their values as texts under
    their names, whatever the names and the values are. The leaves of the object are the cookies
    in their order, and each of them has its line. -/
theorem listing_eq_dotted {cookies : Cookies} (hcookies : KeyedList.Ascending cookies)
    {fields : List (String × Json)} (hfields : KeyedList.Ascending fields)
    (hsame : ∀ name,
      KeyedList.lookup name fields = (KeyedList.lookup name cookies).map Json.string) :
    listing cookies = Json.dotted (.object fields) ∧
      (Json.object fields).leaves = cookies.map leaf ∧
      Json.dotted (.object fields) = endLines ((Json.object fields).leaves.map Json.Leaf.line) := by
  -- The object is the document of the cookies.
  rw [object_eq_toJson hcookies hfields hsame]
  refine ⟨?_, leaves_toJson cookies, dotted_toJson cookies⟩
  rw [dotted_toJson, leaves_toJson, listing_eq_endLines]

/-- An empty name, a name with dots and a value with a line break. -/
theorem listing_eq_dotted_unusual :
    let cookies : Cookies := [("", "x: y"), ("a.b", "1\n"), ("a.b.c", ""), ("é", "2")]
    KeyedList.Ascending cookies ∧
      listing cookies = ": x: y\na.b: 1\n\na.b.c: \né: 2\n" ∧
      Json.dotted (toJson cookies) = ": x: y\na.b: 1\n\na.b.c: \né: 2\n" := by
  intro cookies
  have hcookies : KeyedList.Ascending cookies := by
    unfold KeyedList.Ascending
    decide
  have hlisting : listing cookies = ": x: y\na.b: 1\n\na.b.c: \né: 2\n" := by decide +kernel
  have hfields : KeyedList.Ascending (cookies.map fun c => (c.1, Json.string c.2)) :=
    KeyedList.ascending_map_snd hcookies
  refine ⟨hcookies, hlisting, ?_⟩
  rw [← hlisting]
  exact (listing_eq_dotted hcookies hfields fun name =>
    KeyedList.lookup_map_snd Json.string name cookies).1.symm

end Cookies

end BrokerClient
