import BrokerClient.Text.OsText

/-!
# Process Environments

The variables of a process in the order in which they were first set. Setting a
variable again keeps its place.

## Main definitions

* `Environment`: Names with values.
* `Environment.get?`, `Environment.set`, `Environment.unset`: Access by name.

## Theorems

* `Environment.get?_set`: Setting changes one variable only.
-/

namespace BrokerClient

/-- The variables of a process, each name once. -/
structure Environment where
  bindings : List (OsText × OsText)
  deriving DecidableEq, Inhabited

namespace Environment

/-- The environment without variables. -/
def empty : Environment := ⟨[]⟩

/-- The value of a variable. -/
def get? (e : Environment) (name : OsText) : Option OsText :=
  (e.bindings.find? fun v => v.1 = name).map Prod.snd

/-- The value of a variable, if it is set and not empty. -/
def nonEmpty? (e : Environment) (name : OsText) : Option OsText :=
  (e.get? name).filter fun value => !value.isEmpty

/-- Replaces the value of a variable in place, or adds the variable behind the
    others. -/
def setIn (name value : OsText) : List (OsText × OsText) → List (OsText × OsText)
  | [] => [(name, value)]
  | v :: r => if v.1 = name then (name, value) :: r else v :: setIn name value r

/-- The environment with a variable set. -/
def set (e : Environment) (name value : OsText) : Environment :=
  ⟨setIn name value e.bindings⟩

/-- The environment without a variable. -/
def unset (e : Environment) (name : OsText) : Environment :=
  ⟨e.bindings.filter fun v => v.1 ≠ name⟩

/-- Setting a variable leaves the others alone. -/
theorem get?_set (e : Environment) (name value n : OsText) :
    (e.set name value).get? n = if n = name then some value else e.get? n := by
  obtain ⟨vs⟩ := e
  simp only [set, get?]
  induction vs with
  | nil =>
    by_cases h : name = n
    · simp [setIn, h]
    · simp [setIn, h, Ne.symm h]
  | cons v r ih =>
    simp only [setIn]
    split
    · next h =>
      subst h
      by_cases hn : v.1 = n
      · simp [hn]
      · simp [hn, Ne.symm hn]
    · next h =>
      by_cases hv : v.1 = n
      · subst hv
        simp [h]
      · simpa [hv] using ih

end Environment

end BrokerClient
