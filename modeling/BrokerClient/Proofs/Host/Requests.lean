import BrokerClient.Proofs.Host.Action

/-!
# Requests on Open Files

The answers to all requests on open files are on the machine from the start, and
each request takes its own from the front. So what becomes of several requests
in a row can be told from the first of their answers that is a refusal: without
one all are carried out, and otherwise they end with its error.

A content is in its file in the end exactly if neither the writing nor a request
behind it is refused. Whatever is refused, no other file has changed
(`Action.run_save_cases`).

## Main definitions

* `Machine.refusal?`: The first refusal among the next answers.
* `Machine.answered`: The machine when some answers have been taken.

## Theorems

* `Machine.refusal?_add`: Requests in a row, in two parts.
* `Action.run_requests_ok`, `Action.run_requests_error`: What becomes of requests in a row.
* `Action.run_save_cases`: What becomes of a content that is to last.
-/

namespace BrokerClient

namespace Machine

/-- The first refusal among so many of the next answers. -/
def refusal? (m : Machine) (n : Nat) : Option Refusal := (m.answers.take n).findSome? id

/-- The machine when so many answers have been taken. -/
def answered (m : Machine) (n : Nat) : Machine := { m with answers := m.answers.drop n }

theorem refusal?_one (m : Machine) : m.refusal? 1 = m.answers.head?.join := by
  unfold refusal?
  cases hanswers : m.answers with
  | nil => rfl
  | cons answer rest => cases answer <;> rfl

/-- A refusal among the first answers comes before those behind them. -/
theorem refusal?_add (m : Machine) (n k : Nat) :
    m.refusal? (n + k) = (m.refusal? n).or ((m.answered n).refusal? k) := by
  unfold refusal? answered
  rw [List.take_add, List.findSome?_append]

theorem answered_answered (m : Machine) (n k : Nat) :
    (m.answered n).answered k = m.answered (n + k) := by
  unfold answered
  simp only [List.drop_drop]

end Machine

namespace Action

open Machine (answered)

variable {m : Machine} {refusal : Refusal}

theorem run_takeAnswer (m : Machine) : takeAnswer.run m = (m.refusal? 1, m.answered 1) := by
  rw [Machine.refusal?_one]
  unfold answered
  rw [List.drop_one]
  rfl

theorem run_request_ok (h : m.refusal? 1 = none) : request.run m = (.ok (), m.answered 1) := by
  unfold request
  rw [run_bind, run_takeAnswer, h]
  rfl

theorem run_request_error (h : m.refusal? 1 = some refusal) :
    request.run m = (.error refusal.error, m.answered 1) := by
  unfold request
  rw [run_bind, run_takeAnswer, h]
  rfl

/-- Requests are all carried out if none of them is refused. -/
theorem run_requests_ok {n : Nat} (h : m.refusal? n = none) :
    (requests n).run m = (.ok (), m.answered n) := by
  induction n generalizing m with
  | zero => rfl
  | succ n ih =>
    rw [Nat.add_comm, Machine.refusal?_add, Option.or_eq_none_iff] at h
    unfold requests
    rw [run_bind, run_request_ok h.1]
    simp only
    rw [ih h.2, Machine.answered_answered, Nat.add_comm]

/-- Requests end with the first one that is refused. -/
theorem run_requests_error {n : Nat} (h : m.refusal? n = some refusal) :
    ∃ k, (requests n).run m = (.error refusal.error, m.answered k) := by
  induction n generalizing m with
  | zero => cases h
  | succ n ih =>
    rw [Nat.add_comm, Machine.refusal?_add] at h
    unfold requests
    rw [run_bind]
    cases hfirst : m.refusal? 1 with
    | some first =>
      rw [hfirst] at h
      rw [run_request_error hfirst, Option.some.inj h]
      exact ⟨1, rfl⟩
    | none =>
      -- The first request is carried out, so the refusal is for one behind it.
      rw [hfirst, Option.none_or] at h
      rcases ih h with ⟨k, hrun⟩
      rw [run_request_ok hfirst]
      simp only
      rw [hrun, Machine.answered_answered]
      exact ⟨1 + k, rfl⟩

/-! ## A content that lasts -/

/-- The machine when a file has some content and so many answers have been
    taken. -/
def filled (m : Machine) (place : Place) (content : List UInt8) (mode n : Nat) : Machine :=
  { m.answered n with files := m.files.insert place (.file content mode) }

variable {place : Place} {content : List UInt8} {mode n : Nat}

theorem refusal?_filled (k : Nat) :
    (filled m place content mode n).refusal? k = (m.answered n).refusal? k := rfl

theorem answered_filled (k : Nat) :
    (filled m place content mode n).answered k = filled m place content mode (n + k) := by
  unfold filled
  rw [← Machine.answered_answered]
  rfl

theorem run_writeAll_ok (h : m.refusal? 1 = none) :
    (writeAll place content mode).run m = (.ok (), filled m place content mode 1) := by
  unfold writeAll
  rw [run_bind, run_takeAnswer, h]
  rfl

theorem run_writeAll_error (h : m.refusal? 1 = some refusal) :
    (writeAll place content mode).run m =
      (.error refusal.error, filled m place (content.take refusal.taken) mode 1) := by
  unfold writeAll
  rw [run_bind, run_takeAnswer, h]
  rfl

/-- A content is in its file and is to stay there, or one of the requests was
    refused, and the file has some other content or the same. -/
theorem run_save_cases (place : Place) (content : List UInt8) (mode n : Nat) (m : Machine) :
    (∃ refusal part k, m.refusal? (n + 1) = some refusal ∧
      (save place content mode n).run m =
        (.error refusal.error, filled m place part mode k)) ∨
    (m.refusal? (n + 1) = none ∧
      (save place content mode n).run m = (.ok (), filled m place content mode (n + 1))) := by
  rw [Nat.add_comm, Machine.refusal?_add]
  unfold save
  rw [run_bind]
  cases hwrite : m.refusal? 1 with
  | some refusal =>
    left
    rw [run_writeAll_error hwrite]
    exact ⟨refusal, _, 1, rfl, rfl⟩
  | none =>
    have hrest : (m.answered 1).refusal? n = (filled m place content mode 1).refusal? n :=
      (refusal?_filled n).symm
    -- All of the content is written, and it depends on the requests whether it is to stay.
    rw [run_writeAll_ok hwrite, hrest]
    simp only [Option.none_or]
    cases hrequests : (filled m place content mode 1).refusal? n with
    | some refusal =>
      left
      rcases run_requests_error hrequests with ⟨k, hrun⟩
      rw [hrun, answered_filled]
      exact ⟨refusal, content, 1 + k, rfl, rfl⟩
    | none =>
      right
      rw [run_requests_ok hrequests, answered_filled]
      exact ⟨rfl, rfl⟩

end Action

end BrokerClient
