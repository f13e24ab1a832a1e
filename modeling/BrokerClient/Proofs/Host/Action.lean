import BrokerClient.Host.Machine

/-!
# Running Actions

An action is run part by part, and what a part leaves behind is where the next
one begins.

Much of what an action leaves alone is left alone by all of its parts. Such a
fact is a relation between the machine before and after, and a relation that
any machine has to itself and that can be chained holds for a whole action if
it holds for its parts (`Preserves.bind`).

## Main definitions

* `Action.Preserves`: A relation that an action keeps, wherever it begins.
* `Action.Frame`: A relation that can be chained.

## Theorems

* `Action.run_bind`: Running one part after the other.
* `Action.Preserves.bind`: What the parts keep, the whole keeps.
* `Action.Preserves.of_eq`: What changes nothing keeps everything.
-/

namespace BrokerClient

namespace Action

variable {α β : Type}

/-! ## Parts -/

theorem run_pure (a : α) (m : Machine) : (pure a : Action α).run m = (a, m) := rfl

theorem run_bind (x : Action α) (f : α → Action β) (m : Machine) :
    (x >>= f).run m = (f (x.run m).1).run (x.run m).2 := rfl

theorem run_get (m : Machine) : (get : Action Machine).run m = (m, m) := rfl

theorem run_log (level : Log.Level) (target message : String) (fields : List (String × String))
    (error : Option String) (m : Machine) :
    (log level target message fields error).run m =
      (⟨⟩, { m with events := m.events ++ [⟨level, target, message, fields, error⟩] }) := rfl

/-- A change of the files that succeeds. -/
theorem run_changeFiles_ok {change : FileTree → Place → Except IoError FileTree} {m : Machine}
    {files : FileTree} (h : change m.files m.workDirectory = .ok files) :
    (changeFiles change).run m = (.ok (), { m with files }) := by
  unfold changeFiles
  rw [run_bind, run_get]
  simp only [h]
  rfl

/-- A change of the files that fails. -/
theorem run_changeFiles_error {change : FileTree → Place → Except IoError FileTree} {m : Machine}
    {e : IoError} (h : change m.files m.workDirectory = .error e) :
    (changeFiles change).run m = (.error e, m) := by
  unfold changeFiles
  rw [run_bind, run_get]
  simp only [h]
  rfl

/-! ## What is kept -/

/-- A relation that an action keeps between the machines before and after it,
    wherever it begins. -/
def Preserves (R : Machine → Machine → Prop) (x : Action α) : Prop := ∀ m, R m (x.run m).2

/-- A relation between machines that can be chained. -/
structure Frame (R : Machine → Machine → Prop) : Prop where
  refl : ∀ m, R m m
  trans : ∀ {a b c}, R a b → R b c → R a c

variable {R : Machine → Machine → Prop}

theorem Preserves.pure (hR : Frame R) (a : α) : Preserves R (Pure.pure a : Action α) :=
  fun m => hR.refl m

/-- What the parts keep, the whole keeps. -/
theorem Preserves.bind (hR : Frame R) {x : Action α} {f : α → Action β} (hx : Preserves R x)
    (hf : ∀ a, Preserves R (f a)) : Preserves R (x >>= f) :=
  fun m => hR.trans (hx m) (hf _ _)

/-- An action that changes nothing keeps everything. -/
theorem Preserves.of_eq (hR : Frame R) {x : Action α} (h : ∀ m, (x.run m).2 = m) :
    Preserves R x := by
  intro m
  rw [h m]
  exact hR.refl m

theorem Preserves.mono {S : Machine → Machine → Prop} (hRS : ∀ m m', R m m' → S m m')
    {x : Action α} (hx : Preserves R x) : Preserves S x :=
  fun m => hRS _ _ (hx m)

/-- A loop over a list keeps what its body keeps. -/
theorem Preserves.forIn (hR : Frame R) {items : List α} {b : β}
    {f : α → β → Action (ForInStep β)} (hf : ∀ a b, Preserves R (f a b)) :
    Preserves R (ForIn.forIn items b f) := by
  induction items generalizing b with
  | nil => exact .pure hR _
  | cons a items ih =>
    rw [List.forIn_cons]
    refine .bind hR (hf a b) fun r => ?_
    cases r with
    | done b => exact .pure hR _
    | yield b => exact ih

theorem Preserves.forM (hR : Frame R) {items : List α} {f : α → Action PUnit}
    (hf : ∀ a, Preserves R (f a)) : Preserves R (items.forM f) := by
  induction items with
  | nil => exact .pure hR _
  | cons a items ih => exact .bind hR (hf a) fun _ => ih

end Action

end BrokerClient
