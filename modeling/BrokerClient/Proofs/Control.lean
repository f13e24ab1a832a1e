/-!
# Computations That May Fail

What is known of the parts of a computation once it has a result.

## Theorems

* `exists_of_bind_eq_ok`: The first part of a successful computation was successful.
* `exists_of_map_eq_ok`: So was what a result was made from.
* `mapError_ok`, `eq_ok_of_mapError_eq_ok`: Changing the errors leaves a result alone.
* `exists_of_mapError_eq_error`: A changed error was an error before.
* `mapM_some_of_eq_ok`: A computation on what may be missing has a result if it succeeds.
* `exists_of_mem_mapM`: Each result for a list comes from one of its elements.
* `mapM_eq_some_of_forall`, `mapM_eq_ok_of_forall`: What has a result for every element has
  one for the list.
* `mapM_eq_error_iff`: Otherwise the first element without one decides.
-/

namespace BrokerClient

variable {ε α β : Type}

theorem exists_of_bind_eq_ok {x : Except ε α} {f : α → Except ε β} {b : β}
    (h : (x >>= f) = .ok b) : ∃ a, x = .ok a ∧ f a = .ok b := by
  cases x with
  | error e => cases h
  | ok a => exact ⟨a, rfl, h⟩

theorem exists_of_map_eq_ok {x : Except ε α} {f : α → β} {b : β} (h : x.map f = .ok b) :
    ∃ a, x = .ok a ∧ f a = b := by
  cases x with
  | error e => cases h
  | ok a => exact ⟨a, rfl, Except.ok.inj h⟩

theorem eq_ok_of_mapError_eq_ok {δ : Type} {x : Except ε α} {f : ε → δ} {a : α}
    (h : x.mapError f = .ok a) : x = .ok a := by
  cases x with
  | error e => cases h
  | ok a' => rw [Except.ok.inj h]

theorem mapError_ok {δ : Type} (f : ε → δ) (a : α) :
    (Except.ok a : Except ε α).mapError f = .ok a := rfl

theorem exists_of_mapError_eq_error {δ : Type} {x : Except ε α} {f : ε → δ} {d : δ}
    (h : x.mapError f = .error d) : ∃ e, x = .error e ∧ f e = d := by
  cases x with
  | error e => exact ⟨e, rfl, Except.error.inj h⟩
  | ok a => cases h

theorem mapM_some_of_eq_ok {f : α → Except ε β} {a : α} {b : β} (h : f a = .ok b) :
    (some a).mapM f = .ok (some b) := by
  change some <$> f a = _
  rw [h]
  rfl

theorem exists_of_mem_mapM {f : α → Option β} {as : List α} {bs : List β}
    (h : as.mapM f = some bs) {b : β} (hb : b ∈ bs) : ∃ a ∈ as, f a = some b := by
  induction as generalizing bs with
  | nil =>
    obtain rfl : [] = bs := by simpa using h
    cases hb
  | cons a as ih =>
    rw [List.mapM_cons] at h
    rcases Option.bind_eq_some_iff.mp h with ⟨b', hb', h⟩
    rcases Option.bind_eq_some_iff.mp h with ⟨bs', hbs', h⟩
    obtain rfl : b' :: bs' = bs := by simpa using h
    rcases List.mem_cons.mp hb with rfl | hb
    · exact ⟨a, List.mem_cons_self, hb'⟩
    · rcases ih hbs' hb with ⟨a', ha', hfound⟩
      exact ⟨a', List.mem_cons_of_mem a ha', hfound⟩

theorem mapM_eq_some_of_forall {f : α → Option β} {g : α → β} {as : List α}
    (h : ∀ a ∈ as, f a = some (g a)) : as.mapM f = some (as.map g) := by
  induction as with
  | nil => rfl
  | cons a as ih =>
    rcases List.forall_mem_cons.mp h with ⟨ha, has⟩
    rw [List.mapM_cons, ha, ih has]
    rfl

theorem mapM_eq_ok_of_forall {f : α → Except ε β} {g : α → β} {as : List α}
    (h : ∀ a ∈ as, f a = .ok (g a)) : as.mapM f = .ok (as.map g) := by
  induction as with
  | nil => rfl
  | cons a as ih =>
    rcases List.forall_mem_cons.mp h with ⟨ha, has⟩
    rw [List.mapM_cons, ha, ih has]
    rfl

/-- If there are results for all elements but those of one kind, the first of that kind
    decides. -/
theorem mapM_eq_error_iff {f : α → Except ε β} {p : α → Bool} {g : α → ε} {as : List α} {e : ε}
    (hpass : ∀ a, p a = false → ∃ b, f a = .ok b) (hfail : ∀ a, p a = true → f a = .error (g a)) :
    as.mapM f = .error e ↔ ∃ a, as.find? p = some a ∧ e = g a := by
  induction as with
  | nil =>
    constructor
    · intro h
      cases h
    · rintro ⟨a, ha, -⟩
      cases ha
  | cons a as ih =>
    rw [List.mapM_cons, List.find?_cons]
    cases ha : p a with
    | true =>
      rw [hfail a ha]
      constructor
      · intro h
        exact ⟨a, rfl, (Except.error.inj h).symm⟩
      · rintro ⟨a', ha', rfl⟩
        rw [Option.some.inj ha']
        rfl
    | false =>
      rcases hpass a ha with ⟨b, hb⟩
      rw [hb, ← ih]
      cases as.mapM f with
      | ok bs => exact ⟨fun h => (by cases h), fun h => (by cases h)⟩
      | error e' =>
        -- The error of the rest is passed on.
        constructor <;> exact fun h => congrArg Except.error (Except.error.inj h)

end BrokerClient
