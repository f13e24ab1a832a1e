import BrokerClient.Proofs.Url.Hosts

/-!
# Characters Behind the Host

Path, query and fragment are percent encoded when a URL is read. Each of the sets of characters
that are encoded has the controls, the space and everything outside ASCII in it, and what is
written in their place is a percent sign with digits. So these parts are made of the visible
characters of ASCII, and a URL of the web, which has at least the slash of its path behind the
host, ends with one of them.

Resolving the dots of a path takes segments away, but never the last one: dots at the end leave
an empty segment.

## Main definitions

* `Url.isGraphic`, `Url.IsVisible`: The visible characters of ASCII, and texts of them.
* `Url.EncodesInvisible`: A set with everything else in it.

## Theorems

* `Url.isVisible_percentEncode`: What is percent encoded is visible.
* `Url.isVisible_of_mem_resolveDots`, `Url.resolveDots_ne_nil`: So are the segments of a path,
  and there is one.
* `Url.isVisible_of_readTail`: So are query and fragment.
* `Url.exists_serialize_eq_append`: What a URL of the web ends with.
-/

namespace BrokerClient

namespace Url

/-- The visible characters of ASCII. -/
def isGraphic (c : Char) : Bool := 0x20 < c.toNat && c.toNat < 0x7F

/-- A text of visible characters. -/
def IsVisible (cs : List Char) : Prop := ∀ c ∈ cs, isGraphic c = true

theorem IsVisible.nil : IsVisible [] := fun _ hc => nomatch hc

theorem IsVisible.cons {c : Char} {cs : List Char} (hc : isGraphic c = true) (hcs : IsVisible cs) :
    IsVisible (c :: cs) :=
  List.forall_mem_cons.mpr ⟨hc, hcs⟩

theorem IsVisible.append {cs ds : List Char} (hcs : IsVisible cs) (hds : IsVisible ds) :
    IsVisible (cs ++ ds) := by
  intro c hc
  rcases List.mem_append.mp hc with hc | hc
  · exact hcs c hc
  · exact hds c hc

theorem not_isBlank_of_isGraphic {c : Char} (h : isGraphic c = true) :
    Unicode.isBlank c = false := by
  simp only [isGraphic, Bool.and_eq_true, decide_eq_true_eq] at h
  simp only [Unicode.isBlank, Bool.or_eq_false_iff, Bool.and_eq_false_iff,
    decide_eq_false_iff_not]
  omega

/-! ## Percent encoding -/

/-- Everything that is not visible is encoded. -/
def EncodesInvisible (inSet : Char → Bool) : Prop := ∀ c, inSet c = false → isGraphic c = true

theorem isGraphic_of_mem_encodeByte {b : UInt8} {c : Char} (h : c ∈ encodeByte b) :
    isGraphic c = true := by
  have hdigit : ∀ d < 16, isGraphic (hexDigit d) = true := by decide
  have hlt : b.toNat < 256 := b.toNat_lt
  unfold encodeByte at h
  simp only [List.mem_cons, List.not_mem_nil, or_false] at h
  rcases h with rfl | rfl | rfl
  · rfl
  · exact hdigit _ (by omega)
  · exact hdigit _ (by omega)

theorem isVisible_percentEncode {inSet : Char → Bool} (hset : EncodesInvisible inSet)
    (cs : List Char) : IsVisible (percentEncode inSet cs) := by
  intro c hc
  rcases List.mem_flatMap.mp hc with ⟨d, -, hc⟩
  cases hd : inSet d with
  | true =>
    rw [hd, if_pos rfl] at hc
    rcases List.mem_flatMap.mp hc with ⟨b, -, hc⟩
    exact isGraphic_of_mem_encodeByte hc
  | false =>
    rw [hd, if_neg Bool.false_ne_true] at hc
    rw [List.mem_singleton.mp hc]
    exact hset d hd

/-- A set has everything in it that is not visible, if it has the controls and the space. -/
theorem encodesInvisible_of {inSet : Char → Bool}
    (hcontrol : ∀ c, isControl c = true → inSet c = true) (hspace : inSet ' ' = true) :
    EncodesInvisible inSet := by
  intro c hc
  have hno : isControl c = false := by
    cases hcase : isControl c with
    | false => rfl
    | true => rw [hcontrol c hcase] at hc; cases hc
  have hne : c.toNat ≠ 0x20 := by
    intro heq
    have hsame : c = ' ' := Char.ext (UInt32.toNat_inj.mp heq)
    rw [hsame, hspace] at hc
    cases hc
  unfold isControl at hno
  unfold isGraphic
  simp only [Bool.or_eq_false_iff, decide_eq_false_iff_not] at hno
  simp only [Bool.and_eq_true, decide_eq_true_eq]
  omega

theorem encodesInvisible_inFragment : EncodesInvisible inFragment :=
  encodesInvisible_of (fun c h => by unfold inFragment; rw [h, Bool.true_or]) (by decide)

theorem encodesInvisible_inPath : EncodesInvisible inPath := by
  intro c h
  exact encodesInvisible_inFragment c (Bool.or_eq_false_iff.mp h).1

theorem encodesInvisible_inSpecialQuery : EncodesInvisible inSpecialQuery := by
  refine encodesInvisible_of (fun c h => ?_) (by decide)
  unfold inSpecialQuery inQuery
  rw [h, Bool.true_or, Bool.true_or]

/-! ## Paths -/

/-- Two dots only take segments away. -/
theorem subset_shorten (done : List (List Char)) :
    (match done with
      | last :: before => if isDriveLetter last then done else before
      | [] => []) ⊆ done := by
  split
  · split
    · exact List.Subset.refl _
    · exact List.subset_cons_self _ _
  · exact List.Subset.refl _

/-- The segments of a path are visible, if those so far are. -/
theorem isVisible_of_mem_resolveDots {file : Bool} {segments done : List (List Char)}
    (hdone : ∀ segment ∈ done, IsVisible segment) :
    ∀ segment ∈ resolveDots file done segments, IsVisible segment := by
  induction segments generalizing done with
  | nil =>
    intro segment hsegment
    exact hdone segment (List.mem_reverse.mp hsegment)
  | cons s rest ih =>
    -- An empty segment at the end is visible as well.
    have hempty : ∀ {done : List (List Char)}, (∀ segment ∈ done, IsVisible segment) →
        ∀ segment ∈ if rest.isEmpty then [] :: done else done, IsVisible segment := by
      intro done hdone
      split
      · exact List.forall_mem_cons.mpr ⟨.nil, hdone⟩
      · exact hdone
    have hwritten : IsVisible (percentEncode inPath s) :=
      isVisible_percentEncode encodesInvisible_inPath s
    unfold resolveDots
    split
    · exact ih (hempty fun segment hsegment => hdone segment (subset_shorten done hsegment))
    · split
      · exact ih (hempty hdone)
      · refine ih (List.forall_mem_cons.mpr ⟨?_, hdone⟩)
        split
        · -- The disk of a file has a colon behind its letter.
          intro c hc
          rcases List.mem_append.mp hc with hc | hc
          · exact hwritten c (List.mem_of_mem_take hc)
          · rw [List.mem_singleton.mp hc]
            rfl
        · exact hwritten

theorem resolveDots_ne_nil {file : Bool} {segments done : List (List Char)}
    (h : segments ≠ [] ∨ done ≠ []) : resolveDots file done segments ≠ [] := by
  induction segments generalizing done with
  | nil => exact fun hnil => h.elim (· rfl) (· (List.reverse_eq_nil_iff.mp hnil))
  | cons s rest ih =>
    -- There are more segments, or this one leaves an empty one.
    have hkept : ∀ done : List (List Char),
        rest ≠ [] ∨ (if rest.isEmpty then [] :: done else done) ≠ [] := by
      intro done
      cases rest with
      | nil => exact .inr (List.cons_ne_nil _ _)
      | cons next rest => exact .inl (List.cons_ne_nil _ _)
    unfold resolveDots
    split
    · exact ih (hkept _)
    · split
      · exact ih (hkept _)
      · exact ih (.inr (List.cons_ne_nil _ _))

theorem splitSegments_ne_nil (special : Bool) (cs : List Char) : splitSegments special cs ≠ [] := by
  cases cs with
  | nil => exact List.cons_ne_nil _ _
  | cons c cs =>
    unfold splitSegments
    split
    · exact List.cons_ne_nil _ _
    · split <;> exact List.cons_ne_nil _ _

theorem toList_text_segments (names : List String) :
    (Path.segments names).text.toList = names.flatMap fun name => '/' :: name.toList := by
  unfold Path.text
  simp [List.flatMap_map]

/-- The path of a URL that is special is visible, and not empty. -/
theorem isVisible_readSegments (cs : List Char) :
    IsVisible (readSegments true false cs).text.toList ∧
      (readSegments true false cs).text.toList ≠ [] := by
  have hsegments : ∀ segment ∈ resolveDots false [] (splitSegments true cs), IsVisible segment :=
    isVisible_of_mem_resolveDots fun segment hsegment => (nomatch hsegment)
  have hne : resolveDots false [] (splitSegments true cs) ≠ [] :=
    resolveDots_ne_nil (.inl (splitSegments_ne_nil true cs))
  unfold readSegments
  rw [toList_text_segments]
  simp only [Bool.false_eq_true, if_false, List.flatMap_map, String.toList_ofList]
  constructor
  · intro c hc
    rcases List.mem_flatMap.mp hc with ⟨segment, hsegment, hc⟩
    rcases List.mem_cons.mp hc with rfl | hc
    · rfl
    · exact hsegments segment hsegment c hc
  · rcases List.exists_cons_of_ne_nil hne with ⟨first, rest, hcons⟩
    rw [hcons, List.flatMap_cons]
    exact List.cons_ne_nil _ _

/-! ## Queries and fragments -/

/-- Query and fragment of a URL that is special are visible. -/
theorem isVisible_of_readTail {cs : List Char} {query fragment : Option String}
    (h : readTail true cs = (query, fragment)) :
    (∀ q, query = some q → IsVisible q.toList) ∧ (∀ f, fragment = some f → IsVisible f.toList) := by
  have hquery : ∀ (cs : List Char) (q : String),
      some (String.ofList (percentEncode inSpecialQuery cs)) = some q → IsVisible q.toList := by
    rintro cs q ⟨rfl⟩
    rw [String.toList_ofList]
    exact isVisible_percentEncode encodesInvisible_inSpecialQuery cs
  have hfragment : ∀ (cs : List Char) (f : String),
      some (String.ofList (percentEncode inFragment cs)) = some f → IsVisible f.toList := by
    rintro cs f ⟨rfl⟩
    rw [String.toList_ofList]
    exact isVisible_percentEncode encodesInvisible_inFragment cs
  unfold readTail at h
  dsimp only at h
  split at h
  · split at h
    · cases h
      exact ⟨hquery _, hfragment _⟩
    · cases h
      exact ⟨hquery _, fun f hf => nomatch hf⟩
  · cases h
    exact ⟨fun q hq => (nomatch hq), hfragment _⟩
  · cases h
    exact ⟨fun q hq => (nomatch hq), fun f hf => nomatch hf⟩

/-! ## The whole -/

/-- What a URL of the web is written with behind its host is visible, and there is something. -/
theorem exists_serialize_eq_append {text : List Char} {u : Url} (h : parse text = .ok u)
    (hscheme : u.scheme = "http" ∨ u.scheme = "https") :
    ∃ front back, u.serialize.toList = front ++ back ∧ IsVisible back ∧ back ≠ [] := by
  rcases exists_parseAuthority_of_parse h hscheme with ⟨hspecial, cs, hread⟩
  rcases (of_parseAuthority hread).2 hspecial with ⟨-, hpath, behind, htail⟩
  rcases isVisible_of_readTail htail with ⟨hquery, hfragment⟩
  have hpath : IsVisible u.path.text.toList ∧ u.path.text.toList ≠ [] := by
    rcases hpath with hpath | ⟨cs, hpath⟩ <;> rw [hpath]
    · exact ⟨.cons rfl .nil, List.cons_ne_nil _ _⟩
    · exact isVisible_readSegments cs
  unfold serialize
  simp only [String.toList_append]
  rw [List.append_assoc, List.append_assoc]
  refine ⟨_, _, rfl, hpath.1.append (.append ?_ ?_), List.append_ne_nil_of_left_ne_nil hpath.2 _⟩
  · split
    · next q hq =>
      rw [String.toList_append]
      exact .cons rfl (hquery q hq)
    · exact .nil
  · split
    · next f hf =>
      rw [String.toList_append]
      exact .cons rfl (hfragment f hf)
    · exact .nil

end Url

end BrokerClient
