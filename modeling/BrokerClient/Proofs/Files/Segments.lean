import BrokerClient.Files.Path

/-!
# Segments of Joined Paths

The segments of a path are its parts between slashes, so a slash between two
byte strings puts their segments one behind the other. A name is a single
segment. Joining a path and a name puts the name behind the segments of the
path, where an empty last segment, which is a slash at the end, gives way to
it.

## Main definitions

* `Path.IsName`: Whether bytes can be the name of an entry of a directory.

## Theorems

* `Path.segments_append_slash`: A slash separates segments.
* `Path.segments_join`: The segments of a joined path are those of a directory and the name.
-/

namespace BrokerClient

namespace Path

/-- Bytes that can be the name of an entry of a directory. -/
structure IsName (name : List UInt8) : Prop where
  nonempty : name ≠ []
  notDot : name ≠ [dot]
  notDots : name ≠ [dot, dot]
  noSlash : slash ∉ name

theorem segments_ne_nil (bytes : List UInt8) : segments bytes ≠ [] := by
  cases bytes with
  | nil => exact List.cons_ne_nil _ _
  | cons b r =>
    unfold segments
    split
    · exact List.cons_ne_nil _ _
    · split <;> exact List.cons_ne_nil _ _

theorem segments_slash_cons (r : List UInt8) : segments (slash :: r) = [] :: segments r := by
  rw [segments, if_pos rfl]

theorem segments_cons {b : UInt8} (hb : b ≠ slash) {r s : List UInt8} {rest : List (List UInt8)}
    (h : segments r = s :: rest) : segments (b :: r) = (b :: s) :: rest := by
  rw [segments, if_neg hb, h]

/-- A slash separates segments. -/
theorem segments_append_slash (s r : List UInt8) :
    segments (s ++ slash :: r) = segments s ++ segments r := by
  induction s with
  | nil => exact segments_slash_cons r
  | cons b s ih =>
    rw [List.cons_append]
    by_cases hb : b = slash
    · rw [hb, segments_slash_cons, segments_slash_cons, ih, List.cons_append]
    -- The byte goes to the first segment, which is there on both sides.
    · rcases hs : segments s with _ | ⟨first, rest⟩
      · exact absurd hs (segments_ne_nil s)
      · rw [hs, List.cons_append] at ih
        rw [segments_cons hb hs, segments_cons hb ih, List.cons_append]

theorem segments_of_notMem {s : List UInt8} (h : slash ∉ s) : segments s = [s] := by
  induction s with
  | nil => rfl
  | cons b s ih =>
    have hb : b ≠ slash := fun heq => h (by rw [heq]; exact List.mem_cons_self)
    exact segments_cons hb (ih fun hmem => h (List.mem_cons_of_mem _ hmem))

theorem isAbsolute_of_isName {name : Path} (h : IsName name.bytes) : isAbsolute name = false := by
  refine decide_eq_false fun hhead => h.noSlash ?_
  exact List.mem_of_mem_head? hhead

/-- A path with a slash at its end has the segments in front of that slash and
    an empty one. -/
theorem exists_of_getLast?_slash {p : Path} (h : p.bytes.getLast? = some slash) :
    ∃ front, p.bytes = front ++ [slash] ∧ segments p.bytes = segments front ++ [[]] := by
  rcases List.getLast?_eq_some_iff.mp h with ⟨front, hfront⟩
  refine ⟨front, hfront, ?_⟩
  rw [hfront, segments_append_slash]
  rfl

/-- A name stands behind the segments of the directory that it is joined to.
    These are all segments of the directory, or all but an empty last one. -/
theorem segments_join {base name : Path} (hbase : base.bytes ≠ []) (hname : IsName name.bytes) :
    ∃ front, segments (join base name).bytes = front ++ [name.bytes] ∧
      (segments base.bytes = front ∨ segments base.bytes = front ++ [[]]) := by
  unfold join
  rw [isAbsolute_of_isName hname, if_neg (by decide)]
  have hempty : base.bytes.isEmpty = false := List.isEmpty_eq_false_iff.mpr hbase
  rw [hempty, Bool.false_or]
  -- Joining adds a slash only if there is none at the end.
  by_cases hlast : base.bytes.getLast? = some slash
  · rcases exists_of_getLast?_slash hlast with ⟨front, hfront, hsegments⟩
    refine ⟨segments front, ?_, .inr hsegments⟩
    rw [if_pos (decide_eq_true hlast)]
    simp only
    rw [hfront, List.append_assoc, List.cons_append, List.nil_append, segments_append_slash,
      segments_of_notMem hname.noSlash]
  · refine ⟨segments base.bytes, ?_, .inl rfl⟩
    rw [if_neg (by rw [decide_eq_true_eq]; exact hlast)]
    simp only
    rw [segments_append_slash, segments_of_notMem hname.noSlash]

/-- A path that is joined to another one stays at the front of the result. -/
theorem exists_bytes_join (base : Path) {p : Path} (h : isAbsolute p = false) :
    ∃ rest, (join base p).bytes = base.bytes ++ rest := by
  unfold join
  rw [h, if_neg (by decide)]
  split
  · exact ⟨p.bytes, rfl⟩
  · exact ⟨slash :: p.bytes, rfl⟩

/-- What is joined to an absolute path is absolute. -/
theorem isAbsolute_join {base : Path} (h : isAbsolute base = true) (p : Path) :
    isAbsolute (join base p) = true := by
  unfold join
  split
  · next hp => exact hp
  · have hhead : base.bytes.head? = some slash := of_decide_eq_true h
    refine decide_eq_true ?_
    split <;> (simp only; rw [List.head?_append, hhead]; rfl)

end Path

end BrokerClient
