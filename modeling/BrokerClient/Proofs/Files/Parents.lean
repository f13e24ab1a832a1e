import BrokerClient.Files.Tree
import BrokerClient.Proofs.Files.Segments

/-!
# Parents of Paths

The parent of a path is spelled with the first segments of the path. Segments at the end
that count for nothing are cut off with the last name, but nothing is added or rewritten, so
`..` and double slashes that are left stand where they stood. Two parents have no segments
of their own: the empty path, above a relative path with one name, and the root.

## Main definitions

* `Path.IsFrontOf`: A path is empty, the root, or spelled with the first segments of another.

## Theorems

* `Path.segments_intercalate`: Segments with slashes between them are read back.
* `Path.isFrontOf_of_parent?`: The parent of a path is a front of it.
* `FileTree.isFrontOf_of_mem_ancestors`: So are all ancestors.
-/

namespace BrokerClient

namespace Path

/-! ## Segments -/

theorem notMem_of_mem_segments {bytes s : List UInt8} (h : s ∈ segments bytes) : slash ∉ s := by
  induction bytes generalizing s with
  | nil =>
    rw [List.mem_singleton.mp h]
    exact List.not_mem_nil
  | cons b bytes ih =>
    by_cases hb : b = slash
    · rw [hb, segments_slash_cons] at h
      rcases List.mem_cons.mp h with rfl | h
      · exact List.not_mem_nil
      · exact ih h
    · rcases hsegments : segments bytes with _ | ⟨first, rest⟩
      · exact absurd hsegments (segments_ne_nil bytes)
      · rw [segments_cons hb hsegments] at h
        rw [hsegments] at ih
        rcases List.mem_cons.mp h with rfl | h
        · intro hmem
          rcases List.mem_cons.mp hmem with heq | hmem
          · exact hb heq.symm
          · exact ih List.mem_cons_self hmem
        · exact ih (List.mem_cons_of_mem _ h)

/-- Segments with slashes between them are read back. -/
theorem segments_intercalate {parts : List (List UInt8)} (hne : parts ≠ [])
    (h : ∀ s ∈ parts, slash ∉ s) : segments (List.intercalate [slash] parts) = parts := by
  induction parts with
  | nil => exact absurd rfl hne
  | cons first parts ih =>
    rcases List.forall_mem_cons.mp h with ⟨hfirst, hparts⟩
    cases parts with
    | nil =>
      rw [List.intercalate_singleton]
      exact segments_of_notMem hfirst
    | cons second parts =>
      rw [List.intercalate_cons_cons, List.append_assoc, List.singleton_append,
        segments_append_slash, segments_of_notMem hfirst, ih (List.cons_ne_nil _ _) hparts]
      rfl

/-! ## Fronts -/

/-- A path is empty, the root, or spelled with the first segments of another path. -/
def IsFrontOf (q p : Path) : Prop :=
  q.bytes = [] ∨ q.bytes = [slash] ∨ segments q.bytes <+: segments p.bytes

theorem IsFrontOf.refl (p : Path) : p.IsFrontOf p := .inr (.inr List.prefix_rfl)

theorem trim_suffix (idle : List UInt8 → Bool) (parts : List (List UInt8)) :
    parent?.trim idle parts <:+ parts := by
  induction parts with
  | nil => exact List.suffix_rfl
  | cons s parts ih =>
    cases parts with
    | nil => exact List.suffix_rfl
    | cons r parts =>
      unfold parent?.trim
      split
      · exact ih.trans (List.suffix_cons s _)
      · exact List.suffix_rfl

/-- Neither the empty path nor the root has a parent. -/
theorem parent?_eq_none {p : Path} (h : p.bytes = [] ∨ p.bytes = [slash]) : parent? p = none := by
  rcases p with ⟨bytes⟩
  rcases h with rfl | rfl <;> rfl

/-- What is left of a path without some segments at its end is a front of it. -/
theorem isFrontOf_of_suffix {p : Path} {cut : List (List UInt8)}
    (h : cut <:+ (segments p.bytes).reverse) (idle : List UInt8 → Bool) :
    IsFrontOf ⟨List.intercalate [slash] (parent?.trim idle cut).reverse⟩ p := by
  have hfront : (parent?.trim idle cut).reverse <+: segments p.bytes := by
    rw [← List.reverse_suffix, List.reverse_reverse]
    exact (trim_suffix idle cut).trans h
  by_cases hnil : (parent?.trim idle cut).reverse = []
  · exact .inl (congrArg (List.intercalate [slash]) hnil)
  · refine .inr (.inr ?_)
    rw [segments_intercalate hnil fun s hs => notMem_of_mem_segments (hfront.subset hs)]
    exact hfront

/-- The parent of a path is a front of it. -/
theorem isFrontOf_of_parent? {p q : Path} (h : parent? p = some q) : q.IsFrontOf p := by
  unfold parent? at h
  split at h
  · cases h
  · cases h
  · dsimp only at h
    split at h
    · split at h
      · exact .inr (.inl (congrArg OsText.bytes (Option.some.inj h).symm))
      · exact .inl (congrArg OsText.bytes (Option.some.inj h).symm)
    · rw [← Option.some.inj h]
      refine isFrontOf_of_suffix ?_ _
      split
      · exact List.nil_suffix
      · exact (List.drop_suffix _ _).trans (List.dropWhile_suffix _)

theorem IsFrontOf.parent {p q r : Path} (hq : q.IsFrontOf p) (h : parent? q = some r) :
    r.IsFrontOf p := by
  rcases hq with hq | hq | hq
  · rw [parent?_eq_none (.inl hq)] at h
    cases h
  · rw [parent?_eq_none (.inr hq)] at h
    cases h
  · exact (isFrontOf_of_parent? h).imp_right fun hr => hr.imp_right fun hr => hr.trans hq

/-- A front that is not empty starts where the path starts. -/
theorem IsFrontOf.isAbsolute {p q : Path} (h : q.IsFrontOf p) (hp : p.bytes ≠ [])
    (hq : q.bytes ≠ []) (hroot : q.bytes ≠ [slash]) : isAbsolute q = isAbsolute p := by
  have hfront := (h.resolve_left hq).resolve_left hroot
  rcases p with ⟨_ | ⟨b, p⟩⟩
  · exact absurd rfl hp
  rcases q with ⟨_ | ⟨c, q⟩⟩
  · exact absurd rfl hq
  -- The first segment is empty exactly if there is a slash in front of it.
  have hhead : ∀ (b : UInt8) (r : List UInt8),
      ((segments (b :: r)).head? = some []) ↔ b = slash := by
    intro b r
    rw [segments]
    split
    · next hb => simp [hb]
    · next hb => split <;> simp [hb]
  have hsame : (segments (c :: q)).head? = (segments (b :: p)).head? := by
    rcases hfront with ⟨rest, hrest⟩
    dsimp only at hrest
    rw [← hrest, List.head?_append]
    cases hsegments : segments (c :: q) with
    | nil => exact absurd hsegments (segments_ne_nil _)
    | cons first rest => rfl
  have hiff : c = slash ↔ b = slash := by rw [← hhead c q, hsame, hhead b p]
  unfold Path.isAbsolute
  simp only [List.head?_cons, Option.some.injEq]
  exact decide_eq_decide.mpr hiff

end Path

namespace FileTree

/-- The ancestors of a path are fronts of it. -/
theorem isFrontOf_of_mem_ancestors {p q : Path} (h : q ∈ ancestors p) : q.IsFrontOf p := by
  suffices hgo : ∀ n (r : Path), r.IsFrontOf p → ∀ q ∈ ancestors.go n r, q.IsFrontOf p from
    hgo _ p (.refl p) q h
  intro n
  induction n with
  | zero =>
    intro r hr q hq
    rw [List.mem_singleton.mp hq]
    exact hr
  | succ n ih =>
    intro r hr q hq
    rw [ancestors.go] at hq
    split at hq
    · next parent hparent =>
      rcases List.mem_cons.mp hq with rfl | hq
      · exact hr
      · exact ih parent (hr.parent hparent) q hq
    · rw [List.mem_singleton.mp hq]
      exact hr

end FileTree

end BrokerClient
