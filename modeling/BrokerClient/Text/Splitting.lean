/-!
# Splitting Texts

Cutting a text at a separator, once or everywhere, and looking for one text
inside another.

## Main definitions

* `splitOnce`: The two parts around the first separator.
* `splitAll`: The parts between all separators.
* `occursIn`: Whether one text lies inside another.

## Theorems

* `splitOnce_eq_some`: The two parts and the separator make the text, and the
  first part has no separator.
* `splitOnce_eq_none`: Only a text without the separator is not cut.
* `takeWhile_append_of_notMem`, `dropWhile_append_of_notMem`: The parts around the first
  separator, for lists of any kind.
-/

namespace BrokerClient

/-- The text in front of the first occurrence of a character and the text
    behind it, if the character occurs. -/
def splitOnce (separator : Char) : List Char → Option (List Char × List Char)
  | [] => none
  | c :: r =>
    if c = separator then some ([], r)
    else (splitOnce separator r).map fun (front, back) => (c :: front, back)

/-- The parts of a list between occurrences of a separator. -/
def splitAll (separator : Char) : List Char → List (List Char)
  | [] => [[]]
  | c :: r =>
    if c = separator then [] :: splitAll separator r
    else
      match splitAll separator r with
      | part :: parts => (c :: part) :: parts
      | [] => [[c]]

/-- Whether a text lies inside another one. -/
def occursIn (part : List Char) : List Char → Bool
  | [] => part.isEmpty
  | c :: r => part.isPrefixOf (c :: r) || occursIn part r

/-- A text is cut at its first separator, which belongs to neither part. -/
theorem splitOnce_eq_some {separator : Char} {text front back : List Char} :
    splitOnce separator text = some (front, back) ↔
      text = front ++ separator :: back ∧ separator ∉ front := by
  induction text generalizing front with
  | nil => simp [splitOnce]
  | cons c r ih =>
    by_cases h : c = separator
    · subst h
      cases front with
      | nil => simp [splitOnce, eq_comm]
      | cons f fs =>
        simp only [splitOnce, if_true, Option.some.injEq, Prod.mk.injEq, List.cons_append,
          List.cons.injEq, List.mem_cons, not_or]
        constructor
        · intro h
          exact absurd h.1 (by simp)
        · intro h
          exact absurd h.1.1 h.2.1
    · cases front with
      | nil => simp [splitOnce, h]
      | cons f fs =>
        simp only [splitOnce, h, if_false, Option.map_eq_some_iff, Prod.exists, Prod.mk.injEq,
          List.cons.injEq, List.cons_append, List.mem_cons, not_or]
        constructor
        · rintro ⟨a, b, hab, ⟨rfl, rfl⟩, rfl⟩
          have := ih.1 hab
          exact ⟨⟨rfl, this.1⟩, fun e => h e.symm, this.2⟩
        · rintro ⟨⟨rfl, hr⟩, -, hm⟩
          exact ⟨fs, back, ih.2 ⟨hr, hm⟩, ⟨rfl, rfl⟩, rfl⟩

/-- Only a text without the separator is not cut. -/
theorem splitOnce_eq_none {separator : Char} {text : List Char} :
    splitOnce separator text = none ↔ separator ∉ text := by
  induction text with
  | nil => simp [splitOnce]
  | cons c r ih =>
    by_cases h : c = separator
    · simp [splitOnce, h]
    · simp [splitOnce, h, ih, Ne.symm h]

/-! ## Up to a separator -/

section

variable {α : Type} [DecidableEq α] {separator : α} {front : List α}

theorem forall_ne_of_notMem (h : separator ∉ front) :
    ∀ a ∈ front, decide (a ≠ separator) = true := by
  intro a ha
  refine decide_eq_true fun heq => ?_
  rw [heq] at ha
  exact h ha

theorem takeWhile_of_notMem (h : separator ∉ front) :
    front.takeWhile (fun a => decide (a ≠ separator)) = front := by
  have happend : (front ++ []).takeWhile (fun a => decide (a ≠ separator)) = front ++ [] :=
    List.takeWhile_append_of_pos (forall_ne_of_notMem h)
  rwa [List.append_nil] at happend

theorem takeWhile_append_of_notMem (h : separator ∉ front) (back : List α) :
    (front ++ separator :: back).takeWhile (fun a => decide (a ≠ separator)) = front := by
  rw [List.takeWhile_append_of_pos (forall_ne_of_notMem h),
    List.takeWhile_cons_of_neg (by simp), List.append_nil]

theorem dropWhile_append_of_notMem (h : separator ∉ front) (back : List α) :
    (front ++ separator :: back).dropWhile (fun a => decide (a ≠ separator)) =
      separator :: back := by
  rw [List.dropWhile_append_of_pos (forall_ne_of_notMem h),
    List.dropWhile_cons_of_neg (by simp)]

end

end BrokerClient
