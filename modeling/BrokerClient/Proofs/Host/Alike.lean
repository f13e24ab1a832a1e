import BrokerClient.Host.Assignment
import BrokerClient.Proofs.Control
import BrokerClient.Proofs.Host.Action

/-!
# Machines That Look Alike

Two machines may differ in variables that nobody asks for. Then whoever asks only
for the others finds the same on both, and leaves them alike. So the result of an
action is the same on machines that look alike to it, and this is put together
from its parts just as what an action leaves alone is.

Variables are also compared in their order, since settings are read from all
variables of a kind one after the other. An assignment to a variable that nobody
asks for does not show, wherever it stands in a list of assignments.

## Main definitions

* `Environment.restrict`: The variables that are asked for.
* `Machine.Alike`: Machines that differ only in variables that are not asked for.
* `Action.Respects`: An action finds the same on machines that look alike, and sets no variable.
* `Assignment.Adds`: A list of assignments with more of them in it.

## Theorems

* `Environment.restrict_set`: Setting a variable shows only if it is asked for.
* `Action.Respects.bind`: What the parts respect, the whole respects.
* `Assignment.Adds.restrict_applyAll`: Added assignments show only in their own variables.
-/

namespace BrokerClient

/-! ## Variables -/

namespace Environment

/-- The variables that are asked for, with their values and in their order. -/
def restrict (asked : OsText → Bool) (e : Environment) : List (OsText × OsText) :=
  e.bindings.filter fun v => asked v.1

variable {asked : OsText → Bool} {e e' : Environment}

theorem setIn_cons (name value : OsText) (v : OsText × OsText) (rest : List (OsText × OsText)) :
    setIn name value (v :: rest) =
      if v.1 = name then (name, value) :: rest else v :: setIn name value rest := rfl

theorem filter_setIn (name value : OsText) (bindings : List (OsText × OsText)) :
    (setIn name value bindings).filter (fun v => asked v.1) =
      if asked name then setIn name value (bindings.filter fun v => asked v.1)
      else bindings.filter fun v => asked v.1 := by
  induction bindings with
  | nil =>
    unfold setIn
    cases hasked : asked name <;> simp [hasked]
  | cons v bindings ih =>
    rw [setIn_cons]
    by_cases hname : v.1 = name
    · rw [if_pos hname]
      cases hasked : asked name <;> simp [hasked, hname, setIn_cons]
    -- The variable at the front stays, whether it is asked for or not.
    · rw [if_neg hname, List.filter_cons, ih, List.filter_cons]
      cases hasked : asked name <;> cases hfront : asked v.1 <;> simp [setIn_cons, hname]

/-- Setting a variable shows only if the variable is asked for. -/
theorem restrict_set (e : Environment) (name value : OsText) :
    (e.set name value).restrict asked =
      if asked name then setIn name value (e.restrict asked) else e.restrict asked :=
  filter_setIn name value e.bindings

/-- A variable that is asked for has the same value in environments that do not
    differ there. -/
theorem get?_of_restrict (h : e'.restrict asked = e.restrict asked) {name : OsText}
    (hasked : asked name = true) : e'.get? name = e.get? name := by
  -- A variable that is asked for is found first among these just as among all.
  have hfind : ∀ e : Environment, (e.restrict asked).find? (fun v => decide (v.1 = name)) =
      e.bindings.find? fun v => decide (v.1 = name) := by
    intro e
    unfold restrict
    rw [List.find?_filter]
    refine congrArg (List.find? · e.bindings) (funext fun v => ?_)
    by_cases hname : v.1 = name
    · simp [hname, hasked]
    · simp [hname]
  unfold get?
  rw [← hfind e', ← hfind e, h]

theorem nonEmpty?_of_restrict (h : e'.restrict asked = e.restrict asked) {name : OsText}
    (hasked : asked name = true) : e'.nonEmpty? name = e.nonEmpty? name := by
  unfold nonEmpty?
  rw [get?_of_restrict h hasked]

/-- Who asks for fewer variables sees less. -/
theorem restrict_mono {fewer : OsText → Bool}
    (hfewer : ∀ name, fewer name = true → asked name = true)
    (h : e'.restrict asked = e.restrict asked) : e'.restrict fewer = e.restrict fewer := by
  have hfilter : ∀ e : Environment,
      e.restrict fewer = (e.restrict asked).filter fun v => fewer v.1 := by
    intro e
    unfold restrict
    rw [List.filter_filter]
    refine List.filter_congr fun v _ => ?_
    cases hv : fewer v.1 with
    | false => rfl
    | true => rw [hfewer v.1 hv]; rfl
  rw [hfilter e', hfilter e, h]

end Environment

/-! ## Machines -/

/-- Machines that differ at most in variables that are not asked for, and in what
    they have recorded. -/
structure Machine.Alike (asked : OsText → Bool) (m m' : Machine) : Prop where
  files : m'.files = m.files
  workDirectory : m'.workDirectory = m.workDirectory
  accountHome : m'.accountHome = m.accountHome
  processors : m'.processors = m.processors
  environment : m'.environment.restrict asked = m.environment.restrict asked

namespace Machine.Alike

variable {asked fewer : OsText → Bool} {m m' : Machine}

theorem get? (h : Alike asked m m') {name : OsText} (hasked : asked name = true) :
    m'.environment.get? name = m.environment.get? name :=
  Environment.get?_of_restrict h.environment hasked

theorem nonEmpty? (h : Alike asked m m') {name : OsText} (hasked : asked name = true) :
    m'.environment.nonEmpty? name = m.environment.nonEmpty? name :=
  Environment.nonEmpty?_of_restrict h.environment hasked

theorem refl (asked : OsText → Bool) (m : Machine) : m.Alike asked m := ⟨rfl, rfl, rfl, rfl, rfl⟩

theorem mono (h : Alike asked m m') (hfewer : ∀ name, fewer name = true → asked name = true) :
    Alike fewer m m' :=
  { h with environment := Environment.restrict_mono hfewer h.environment }

end Machine.Alike

/-! ## Actions -/

namespace Action

variable {α β : Type} {asked : OsText → Bool}

/-- An action finds the same on machines that look alike and leaves them alike,
    and it sets no variable. -/
structure Respects (asked : OsText → Bool) (x : Action α) : Prop where
  alike : ∀ m m', m.Alike asked m' →
    (x.run m').1 = (x.run m).1 ∧ (x.run m).2.Alike asked (x.run m').2
  environment : ∀ m, (x.run m).2.environment = m.environment

namespace Respects

theorem pure (a : α) : Respects asked (Pure.pure a : Action α) :=
  ⟨fun _ _ h => ⟨rfl, h⟩, fun _ => rfl⟩

/-- What the parts respect, the whole respects. -/
theorem bind {x : Action α} {f : α → Action β} (hx : Respects asked x)
    (hf : ∀ a, Respects asked (f a)) : Respects asked (x >>= f) := by
  constructor
  · intro m m' h
    rcases hx.alike m m' h with ⟨hresult, hafter⟩
    rw [run_bind, run_bind, hresult]
    exact (hf _).alike _ _ hafter
  · intro m
    rw [run_bind, (hf _).environment, hx.environment]

theorem forIn {items : List α} {b : β} {f : α → β → Action (ForInStep β)}
    (hf : ∀ a b, Respects asked (f a b)) : Respects asked (ForIn.forIn items b f) := by
  induction items generalizing b with
  | nil => exact .pure _
  | cons a items ih =>
    rw [List.forIn_cons]
    refine .bind (hf a b) fun r => ?_
    cases r with
    | done b => exact .pure _
    | yield b => exact ih

theorem log (level : Log.Level) (target message : String) (fields : List (String × String))
    {error : Option String} : Respects asked (Action.log level target message fields error) :=
  ⟨fun _ _ h => ⟨rfl, { h with }⟩, fun _ => rfl⟩

theorem readFile (p : Path) : Respects asked (Action.readFile p) := by
  refine ⟨fun m m' h => ⟨?_, h⟩, fun _ => rfl⟩
  change m'.files.read m'.workDirectory p = m.files.read m.workDirectory p
  rw [h.files, h.workDirectory]

theorem removeFile (p : Path) : Respects asked (Action.removeFile p) := by
  unfold Action.removeFile
  constructor
  · intro m m' h
    have hsame : m'.files.remove m'.workDirectory p = m.files.remove m.workDirectory p := by
      rw [h.files, h.workDirectory]
    cases hremove : m.files.remove m.workDirectory p with
    | error e =>
      rw [run_changeFiles_error (hsame.trans hremove), run_changeFiles_error hremove]
      exact ⟨rfl, h⟩
    | ok files =>
      rw [run_changeFiles_ok (hsame.trans hremove), run_changeFiles_ok hremove]
      exact ⟨rfl, { h with files := rfl }⟩
  · intro m
    cases hremove : m.files.remove m.workDirectory p with
    | error e => rw [run_changeFiles_error hremove]
    | ok files => rw [run_changeFiles_ok hremove]

end Respects

end Action

/-! ## Assignments -/

namespace Assignment

/-- A list of assignments with some well-formed ones added anywhere in it. -/
inductive Adds : List String → List String → List Assignment → Prop
  | nil : Adds [] [] []
  | keep {old new : List String} {added : List Assignment} (text : String)
    (adds : Adds old new added) : Adds (text :: old) (text :: new) added
  | add {old new : List String} {added : List Assignment} {text : String} {a : Assignment}
    (wellFormed : parse text = .ok a) (adds : Adds old new added) :
    Adds old (text :: new) (a :: added)

variable {asked : OsText → Bool} {old new : List String} {added : List Assignment}

theorem mapM_parse_cons (text : String) (texts : List String) :
    (text :: texts).mapM parse =
      (parse text).bind fun a => (texts.mapM parse).bind fun rest => .ok (a :: rest) :=
  List.mapM_cons

/-- If one of the assignments is malformed, the first such one is the same. -/
theorem Adds.mapM_error (h : Adds old new added) {e : AssignmentError}
    (hold : old.mapM parse = .error e) : new.mapM parse = .error e := by
  induction h with
  | nil => cases hold
  | @keep old new added text _ ih =>
    rw [mapM_parse_cons] at hold ⊢
    cases hparse : parse text with
    | error e' => rwa [hparse] at hold
    | ok a =>
      rw [hparse] at hold
      cases hrest : old.mapM parse with
      | ok rest =>
        rw [hrest] at hold
        cases hold
      | error e' =>
        rw [hrest] at hold
        rw [ih (hrest.trans hold)]
        rfl
  -- Added assignments are well formed, so none of them comes first.
  | add wellFormed _ ih =>
    rw [mapM_parse_cons, wellFormed, ih hold]
    rfl

/-- Well-formed assignments may be added behind all others. -/
theorem Adds.append {texts : List String} (old : List String)
    (h : texts.mapM parse = .ok added) : Adds old (old ++ texts) added := by
  induction old with
  | cons text old ih => exact .keep text ih
  | nil =>
    induction texts generalizing added with
    | nil =>
      cases h
      exact .nil
    | cons text texts ih =>
      rw [mapM_parse_cons] at h
      rcases exists_of_bind_eq_ok h with ⟨a, hparse, hfollow⟩
      rcases exists_of_bind_eq_ok hfollow with ⟨rest, hrest, hcons⟩
      cases Except.ok.inj hcons
      exact .add hparse (ih hrest)

theorem restrict_apply (e : Environment) (a : Assignment) :
    (apply e a).restrict asked =
      if asked (.ofChars a.key) then Environment.setIn (.ofChars a.key) (.ofChars a.value)
        (e.restrict asked) else e.restrict asked :=
  e.restrict_set _ _

/-- Added assignments show only in their own variables. -/
theorem Adds.restrict_applyAll (h : Adds old new added) {assignments : List Assignment}
    (hold : old.mapM parse = .ok assignments) :
    ∃ all, new.mapM parse = .ok all ∧ ∀ e e' : Environment,
      (∀ a ∈ added, asked (.ofChars a.key) = false) → e'.restrict asked = e.restrict asked →
        (applyAll e' all).restrict asked = (applyAll e assignments).restrict asked := by
  -- The induction is on how the list was made. The environments go along with it: an
  -- assignment in both lists is made in both, and an added one in the second only.
  induction h generalizing assignments with
  | nil =>
    cases hold
    exact ⟨[], rfl, fun _ _ _ h => h⟩
  | keep text _ ih =>
    rw [mapM_parse_cons] at hold
    rcases exists_of_bind_eq_ok hold with ⟨a, hparse, hfollow⟩
    rcases exists_of_bind_eq_ok hfollow with ⟨rest, hrest, hcons⟩
    cases Except.ok.inj hcons
    rcases ih hrest with ⟨all, hall, hsame⟩
    refine ⟨a :: all, ?_, fun e e' hadded h => hsame (apply e a) (apply e' a) hadded ?_⟩
    · rw [mapM_parse_cons, hparse, hall]
      rfl
    · rw [restrict_apply, restrict_apply, h]
  | @add old new added text a wellFormed _ ih =>
    rcases ih hold with ⟨all, hall, hsame⟩
    refine ⟨a :: all, ?_, fun e e' hadded h => ?_⟩
    · rw [mapM_parse_cons, wellFormed, hall]
      rfl
    · rcases List.forall_mem_cons.mp hadded with ⟨hunasked, hadded⟩
      refine hsame e (apply e' a) hadded ?_
      rw [restrict_apply, hunasked]
      exact h

end Assignment

end BrokerClient
