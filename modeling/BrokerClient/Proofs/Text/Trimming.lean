import BrokerClient.Unicode.Blank

/-!
# Trimmed Texts

Trimming takes characters away from the two ends of a text, so what is left is part of the
text, and a text whose ends are to stay is left alone. At the end it goes no further back
than to the last character that stays.

## Theorems

* `Unicode.isPrefix_dropEndWhile`: What is left is the front of the text.
* `Unicode.exists_dropEndWhile_append`: Nothing is dropped up to a character that stays.
* `Unicode.mem_of_mem_trimWhere`: No character is new.
* `Unicode.mem_trimWhere`: A character that is to stay is not taken away.
* `Unicode.trimWhere_eq_self`: A text whose ends stay is left alone.
-/

namespace BrokerClient

namespace Unicode

variable {p : Char → Bool}

theorem isPrefix_dropEndWhile (p : Char → Bool) (cs : List Char) : dropEndWhile p cs <+: cs := by
  unfold dropEndWhile
  rw [← List.reverse_suffix, List.reverse_reverse]
  exact List.dropWhile_suffix p

/-- Nothing is dropped up to a character that stays. -/
theorem exists_dropEndWhile_append {c : Char} (hc : p c = false) (front back : List Char) :
    ∃ rest, dropEndWhile p (front ++ c :: back) = front ++ c :: rest := by
  unfold dropEndWhile
  rw [List.reverse_append, List.reverse_cons, List.append_assoc, List.dropWhile_append]
  split
  · -- Nothing of the back is left, so the character is the last one.
    refine ⟨[], ?_⟩
    rw [List.singleton_append, List.dropWhile_cons_of_neg (by simp [hc])]
    simp
  · exact ⟨(back.reverse.dropWhile p).reverse, by simp⟩

theorem mem_of_mem_trimWhere {c : Char} {cs : List Char} (h : c ∈ trimWhere p cs) : c ∈ cs := by
  have hkept : c ∈ cs.dropWhile p := (isPrefix_dropEndWhile p _).subset h
  exact (List.dropWhile_suffix p).subset hkept

/-- A character that is to stay is not taken away. -/
theorem mem_trimWhere {c : Char} {cs : List Char} (hc : p c = false) (h : c ∈ cs) :
    c ∈ trimWhere p cs := by
  rcases List.append_of_mem h with ⟨front, back, rfl⟩
  have hkept : (front ++ c :: back).dropWhile p = front.dropWhile p ++ c :: back := by
    rw [List.dropWhile_append]
    split
    · next hfront =>
      rw [List.isEmpty_iff.mp hfront, List.dropWhile_cons_of_neg (by rw [hc]; decide)]
      rfl
    · rfl
  unfold trimWhere
  rw [hkept]
  rcases exists_dropEndWhile_append hc (front.dropWhile p) back with ⟨rest, hrest⟩
  rw [hrest]
  exact List.mem_append_right _ List.mem_cons_self

theorem dropEndWhile_eq_self {cs : List Char} (h : ∀ c, cs.getLast? = some c → p c = false) :
    dropEndWhile p cs = cs := by
  unfold dropEndWhile
  cases hlast : cs.reverse with
  | nil => rw [List.reverse_eq_nil_iff.mp hlast]; rfl
  | cons c rest =>
    have hc : cs.getLast? = some c := by rw [← List.head?_reverse, hlast]; rfl
    rw [List.dropWhile_cons_of_neg (by rw [h c hc]; decide), ← hlast, List.reverse_reverse]

/-- A text is left alone if its first and its last character are to stay. -/
theorem trimWhere_eq_self {cs : List Char} (hfirst : ∀ c, cs.head? = some c → p c = false)
    (hlast : ∀ c, cs.getLast? = some c → p c = false) : trimWhere p cs = cs := by
  have hfront : cs.dropWhile p = cs := by
    cases cs with
    | nil => rfl
    | cons c rest => exact List.dropWhile_cons_of_neg (by rw [hfirst c rfl]; decide)
  unfold trimWhere
  rw [hfront]
  exact dropEndWhile_eq_self hlast

end Unicode

end BrokerClient
