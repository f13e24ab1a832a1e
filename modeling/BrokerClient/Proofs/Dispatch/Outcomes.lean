import BrokerClient.Commands
import BrokerClient.Proofs.Host.Action

/-!
# Outcomes of Commands and Their Exit Codes

A handler ends with a result or with a failure. On the way to the exit code of
the process there are three conversions: a failure counts as a result, a result
has a status, which is any integer, and a status has a code, which is a byte.
Only the last one could lose something, and what does not fit a byte becomes the
code of a failure. So the code is zero for results that report success and for
nothing else (`Outcome.tells_code`).

Results are made from documents and from the ends of programs, too. A document
reports success by its shape (`CommandResult.succeeds_ofJson_iff`); its numbers
only do if they are the integer zero, and not as the fraction zero.

## Main definitions

* `Outcome`: How a handler ends.
* `CommandResult.Succeeds`: The results that report success.
* `Outcome.code`: The exit code of an outcome.
* `Outcome.Tells`: What an exit code says about an outcome.
* `Dispatcher.outcome?`: How the handler of a command ends.

## Theorems

* `exitCode_eq_zero_iff`, `toNat_exitCode`, `exitCode_of_outside`: The code of a status.
* `CommandResult.exitStatus_eq_zero_iff`: The results with status zero.
* `Outcome.tells_code`: What the code of an outcome says.
* `Dispatcher.result_dispatch`: A dispatcher reports the outcome of the handler.
-/

namespace BrokerClient

/-! ## Codes -/

theorem exitCode_of_fits {status : Int} (h : 0 ≤ status) (h' : status < 256) :
    exitCode status = UInt8.ofNat status.toNat := by
  unfold exitCode
  rw [decide_eq_true h, decide_eq_true h']
  rfl

/-- A status that fits a byte is the code. -/
theorem toNat_exitCode {status : Int} (h : 0 ≤ status) (h' : status < 256) :
    ((exitCode status).toNat : Int) = status := by
  rw [exitCode_of_fits h h', UInt8.toNat_ofNat']
  omega

/-- Any other status is the code of a failure. It is not cut down to a byte. -/
theorem exitCode_of_outside {status : Int} (h : ¬(0 ≤ status ∧ status < 256)) :
    exitCode status = 1 := by
  unfold exitCode
  rw [← Bool.decide_and, decide_eq_false h]
  rfl

theorem exitCode_eq_zero_iff (status : Int) : exitCode status = 0 ↔ status = 0 := by
  constructor
  · intro h
    by_cases hfits : 0 ≤ status ∧ status < 256
    · rw [← toNat_exitCode hfits.1 hfits.2, h]
      rfl
    · rw [exitCode_of_outside hfits] at h
      cases h
  · rintro rfl
    rfl

/-! ## Results -/

/-- Whether a number is an integer of 64 bits with a sign. -/
def Json.Number.IsSigned (number : Json.Number) : Prop :=
  ∃ value, number = .integer value ∧ -Int.pow 2 63 ≤ value ∧ value < Int.pow 2 63

namespace CommandResult

/-- The results that report success. -/
inductive Succeeds : CommandResult → Prop
  | response : Succeeds (.response 200)
  | boolean : Succeeds (.boolean true)
  | integer : Succeeds (.integer 0)
  | mapping (fields : List (String × Json)) : Succeeds (.mapping fields)
  | nothing : Succeeds .nothing

theorem exitStatus_response (status : Nat) :
    (response status).exitStatus = if status = 200 then 0 else 1 := rfl

theorem exitStatus_eq_zero_iff (result : CommandResult) :
    result.exitStatus = 0 ↔ result.Succeeds := by
  constructor
  · intro h
    cases result with
    | response status =>
      rw [exitStatus_response] at h
      split at h
      · next hok =>
        rw [hok]
        exact .response
      · cases h
    | boolean value =>
      cases value with
      | true => exact .boolean
      | false => cases h
    | integer value =>
      rw [show value = 0 from h]
      exact .integer
    | mapping fields => exact .mapping fields
    | nothing => exact .nothing
    | other shape => cases h
  · intro h
    cases h <;> rfl

/-- Apart from integers there are two statuses. -/
theorem exitStatus_cases (result : CommandResult) :
    result.exitStatus = 0 ∨ result.exitStatus = 1 ∨ ∃ value, result = .integer value := by
  cases result with
  | response status =>
    rw [exitStatus_response]
    split
    · exact .inl rfl
    · exact .inr (.inl rfl)
  | boolean value =>
    cases value with
    | true => exact .inl rfl
    | false => exact .inr (.inl rfl)
  | integer value => exact .inr (.inr ⟨value, rfl⟩)
  | mapping fields => exact .inl rfl
  | nothing => exact .inl rfl
  | other shape => exact .inr (.inl rfl)

/-- A warning about a shape does not change the status. -/
theorem result_settle (result : CommandResult) (m : Machine) :
    (result.settle.run m).1 = result.exitStatus := by
  unfold settle
  cases result <;> rfl

theorem ofJson_integer (value : Int) :
    ofJson (.number (.integer value)) =
      if value < Nat.pow 2 63 then integer value else other "float" := rfl

/-- A document reports success as the null, the true, the integer zero or an
    object. -/
theorem succeeds_ofJson_iff (document : Json) :
    (ofJson document).Succeeds ↔ document = .null ∨ document = .bool true ∨
      document = .number (.integer 0) ∨ ∃ fields, document = .object fields := by
  constructor
  · intro h
    cases document with
    | null => exact .inl rfl
    | bool value =>
      cases h
      exact .inr (.inl rfl)
    | number value =>
      cases value with
      | integer value =>
        rw [ofJson_integer] at h
        split at h
        · cases h
          exact .inr (.inr (.inl rfl))
        · cases h
      | float value => cases h
    | string text => cases h
    | array items => cases h
    | object fields => exact .inr (.inr (.inr ⟨fields, rfl⟩))
  · rintro (rfl | rfl | rfl | ⟨fields, rfl⟩)
    · exact .nothing
    · exact .boolean
    · exact .integer
    · exact .mapping fields

/-- A number that is no integer of 64 bits reports failure. -/
theorem exitCode_ofJson_number {number : Json.Number} (h : ¬ number.IsSigned) :
    exitCode (ofJson (.number number)).exitStatus = 1 := by
  cases number with
  | integer value =>
    rw [ofJson_integer]
    split
    · next hhigh =>
      -- A smaller integer would count as a result, but fits no byte either.
      refine exitCode_of_outside fun hfits => h ⟨value, rfl, ?_, hhigh⟩
      exact Int.le_trans (by decide) hfits.1
    · rfl
  | float value => rfl

end CommandResult

/-! ## Outcomes -/

/-- How a handler ends: with a result or with a failure. -/
abbrev Outcome := Except CommandError CommandResult

namespace Outcome

/-- The result that an outcome counts as. -/
def result : Outcome → CommandResult
  | .ok result => result
  | .error _ => .failure

/-- The exit code of an outcome. -/
def code (outcome : Outcome) : UInt8 := exitCode outcome.result.exitStatus

/-- Whether an outcome reports success. -/
def Succeeds (outcome : Outcome) : Prop := ∃ result, outcome = .ok result ∧ result.Succeeds

/-- Whether an outcome is an integer that is a code of its own. -/
def IsCode (outcome : Outcome) (value : Int) : Prop :=
  outcome = .ok (.integer value) ∧ 1 ≤ value ∧ value ≤ 255

/-- What an exit code says about the outcome of a command. -/
structure Tells (outcome : Outcome) (code : UInt8) : Prop where
  success : code = 0 ↔ outcome.Succeeds
  integer : ∀ value, outcome.IsCode value → (code.toNat : Int) = value
  failure : ¬ outcome.Succeeds → (∀ value, ¬ outcome.IsCode value) → code = 1

theorem code_eq_zero_iff (outcome : Outcome) : outcome.code = 0 ↔ outcome.Succeeds := by
  unfold code
  rw [exitCode_eq_zero_iff, CommandResult.exitStatus_eq_zero_iff]
  cases outcome with
  | ok result => exact ⟨fun h => ⟨result, rfl, h⟩, fun ⟨_, h, hs⟩ => Except.ok.inj h ▸ hs⟩
  | error e =>
    constructor
    · intro h
      cases h
    · rintro ⟨_, h, -⟩
      cases h

/-- The code of an outcome is zero for success, the integer itself if it is a
    code, and one for all others. -/
theorem tells_code (outcome : Outcome) : outcome.Tells outcome.code where
  success := outcome.code_eq_zero_iff
  integer := by
    rintro value ⟨rfl, hlow, hhigh⟩
    have hfits : 0 ≤ value ∧ value < 256 := by omega
    exact toNat_exitCode hfits.1 hfits.2
  failure := by
    intro hfails hother
    have hne : outcome.result.exitStatus ≠ 0 := fun h =>
      hfails (outcome.code_eq_zero_iff.mp ((exitCode_eq_zero_iff _).mpr h))
    rcases outcome.result.exitStatus_cases with h | h | ⟨value, h⟩
    · exact absurd h hne
    · unfold code
      rw [h]
      rfl
    · cases outcome with
      | error e => cases h
      | ok result =>
        obtain rfl : result = .integer value := h
        -- An integer that is neither zero nor a code of its own does not fit a byte.
        have hzero : value ≠ 0 := hne
        have houtside : ¬(0 ≤ value ∧ value < 256) := fun hfits =>
          hother value ⟨rfl, by omega, by omega⟩
        exact exitCode_of_outside houtside

end Outcome

/-! ## Dispatching -/

namespace Dispatcher

theorem handler?_register (d : Dispatcher) (name key : String) (handler : Handler) :
    (d.register key handler).handler? name =
      if name = key then some handler else d.handler? name :=
  KeyedList.lookup_insert key name handler d.handlers

/-- The machine when the handler of a command begins. -/
def announced (name : String) (m : Machine) : Machine :=
  ((Action.log .debug CommandResult.logTarget "dispatching" [("command", name)]).run m).2

/-- How the handler of a command ends, if there are a command and a handler. -/
def outcome? (d : Dispatcher) (command : Option Command) (c : Context) (m : Machine) :
    Option Outcome := do
  let command ← command
  let handler ← d.handler? command.name
  some (((handler command).run.run c).run (announced command.name m)).1.1

/-- What a dispatcher does around a handler does not change its outcome. -/
theorem result_handle (d : Dispatcher) (name : String) (work : Attempt CommandResult) (c : Context)
    (m : Machine) :
    (((d.handle name work).run c).run m).1.1 =
      Outcome.result ((work.run.run c).run (announced name m)).1.1 := by
  have hannounce : ((liftM (Action.log .debug CommandResult.logTarget "dispatching"
      [("command", name)]) : Task Unit).run c).run m = (((), c), announced name m) := rfl
  unfold handle
  rw [StateT.run_bind, Action.run_bind, hannounce, StateT.run_bind, Action.run_bind]
  rcases (work.run.run c).run (announced name m) with ⟨⟨_ | result, c'⟩, m'⟩ <;> rfl

/-- A dispatcher reports the outcome of the handler, and a failure if there is
    none. -/
theorem result_dispatch (d : Dispatcher) (command : Option Command) (c : Context) (m : Machine) :
    (((d.dispatch command).run c).run m).1.1 =
      (d.outcome? command c m).elim .failure Outcome.result := by
  cases command with
  | none => rfl
  | some command =>
    unfold dispatch outcome?
    simp only [Option.bind_eq_bind, Option.bind_some]
    cases d.handler? command.name with
    | none => rfl
    | some handler => exact d.result_handle command.name (handler command) c m

end Dispatcher

namespace Commands

theorem handler?_run (launcher : Launcher) (traces : Bool) :
    (dispatcher launcher traces).handler? "run" = some (run launcher) := by
  unfold dispatcher handlers
  -- The other handlers are registered later, under names of their own.
  simp only [List.foldl_cons, List.foldl_nil, Dispatcher.handler?_register]
  simp

end Commands

end BrokerClient
