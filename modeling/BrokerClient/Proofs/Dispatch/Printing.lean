import BrokerClient.Dispatch.Handler
import BrokerClient.Proofs.Text.Encoding

/-!
# Printing

A command that prints a text and then has a result changes nothing but the output. If the
output closes before the end of the text, it fails instead. Texts that are printed one after
the other come to the same as their join, also where the output closes in between: what fits is
kept, and nothing is tried afterwards.

## Main definitions

* `Context.printed`: A result behind a text that is printed.

## Theorems

* `Sink.write_append`: Writing in two parts.
* `Sink.write_write`: Writing a second part in any case.
* `Attempt.run_print`: What printing comes to.
* `Attempt.run_forM_print`: What printing text after text comes to.
-/

namespace BrokerClient

/-- Bytes are written in two parts like in one. The second part is not tried if the first one
    does not fit. -/
theorem Sink.write_append (s : Sink) (front back : List UInt8) :
    s.write (front ++ back) =
      match (s.write front).2 with
      | .ok () => (s.write front).1.write back
      | .error e => ((s.write front).1, .error e) := by
  rcases s with ⟨written, _ | limit⟩
  · simp [write]
  · simp only [write]
    by_cases hfront : front.length ≤ limit - written.length
    · have hroom : limit - (written ++ front).length = limit - written.length - front.length := by
        rw [List.length_append]
        omega
      rw [if_pos hfront]
      simp only [hroom]
      by_cases hback : (front ++ back).length ≤ limit - written.length
      · rw [if_pos hback, if_pos (by rw [List.length_append] at hback; omega), List.append_assoc]
      · rw [if_neg hback, if_neg (by rw [List.length_append] at hback; omega), List.take_append,
          List.take_of_length_le hfront, List.append_assoc]
    · rw [if_neg hfront, if_neg (by rw [List.length_append]; omega)]
      simp only
      rw [List.take_append_of_le_length (by omega)]

theorem Sink.write_nil (s : Sink) : s.write [] = (s, .ok ()) := by
  rcases s with ⟨written, _ | limit⟩ <;> simp [write]

/-- Where a second part is tried in any case, it adds nothing if the first one did not fit. -/
theorem Sink.write_write (s : Sink) (front back : List UInt8) :
    ((s.write front).1.write back).1 = (s.write (front ++ back)).1 := by
  rw [write_append]
  cases hfront : (s.write front).2 with
  | ok => rfl
  | error e =>
    rcases s with ⟨written, _ | limit⟩
    · cases hfront
    · -- The first part has filled the sink up to its limit.
      simp only [write] at hfront ⊢
      split at hfront
      · cases hfront
      · next hroom =>
        have hfull : limit - (written ++ front.take (limit - written.length)).length = 0 := by
          rw [List.length_append, List.length_take]
          omega
        rw [if_neg hroom]
        simp only [hfull]
        split
        · next hback => rw [List.eq_nil_of_length_eq_zero (Nat.le_zero.mp hback), List.append_nil]
        · rw [List.take_zero, List.append_nil]

variable {α β : Type}

/-- A result behind a text that is printed, or the failure of the output. -/
def Context.printed (c : Context) (text : String) (result : β) :
    Except CommandError β × Context :=
  (((c.output.writeText text).2.mapError .output).map fun _ => result,
    { c with output := (c.output.writeText text).1 })

theorem Context.printed_of_unlimited {c : Context} (h : c.output.limit = none) (text : String)
    (result : β) : (c.printed text result).1 = .ok result := by
  unfold printed Sink.writeText
  rw [Sink.write_unlimited _ _ h]
  rfl

namespace Attempt

/-- What a text and what comes after it come to. -/
theorem run_print_bind (text : String) (f : Unit → Attempt β) (c : Context) (m : Machine) :
    ((print text >>= f).run.run c).run m =
      match (c.output.writeText text).2 with
      | .ok () => ((f ()).run.run { c with output := (c.output.writeText text).1 }).run m
      | .error e =>
        ((.error (.output e), { c with output := (c.output.writeText text).1 }), m) := by
  have hprint : ((print text).run.run c).run m =
      ((match (c.output.writeText text).2 with
        | .ok () => return ()
        | .error e => throw (.output e) : Attempt Unit).run.run
          { c with output := (c.output.writeText text).1 }).run m := rfl
  rw [ExceptT.run_bind, StateT.run_bind, StateT.run_bind, hprint]
  cases (c.output.writeText text).2 <;> rfl

theorem run_print (text : String) (result : β) (c : Context) (m : Machine) :
    ((print text >>= fun _ => pure result).run.run c).run m = (c.printed text result, m) := by
  rw [run_print_bind]
  unfold Context.printed
  cases (c.output.writeText text).2 <;> rfl

/-- Texts that are printed one after the other come to the same as their join. -/
theorem run_forM_print (text : α → String) (items : List α) (result : β) (c : Context)
    (m : Machine) :
    (((items.forM fun a => print (text a)) >>= fun _ => pure result).run.run c).run m =
      (c.printed (String.join (items.map text)) result, m) := by
  induction items generalizing c with
  | nil =>
    unfold Context.printed
    rw [List.map_nil, show c.output.writeText (String.join []) = (c.output, .ok ()) from
      c.output.write_nil]
    rfl
  | cons a items ih =>
    have hassoc : (((a :: items).forM fun a => print (text a)) >>= fun _ => pure result) =
        (print (text a) >>= fun _ => (items.forM fun a => print (text a)) >>= fun _ =>
          pure result) := bind_assoc _ _ _
    have hjoin : c.output.writeText (String.join ((a :: items).map text)) =
        match (c.output.writeText (text a)).2 with
        | .ok () => (c.output.writeText (text a)).1.writeText (String.join (items.map text))
        | .error e => ((c.output.writeText (text a)).1, .error e) := by
      unfold Sink.writeText
      rw [List.map_cons, String.join_cons, String.toList_append, Utf8.encode_append,
        Sink.write_append]
    rw [hassoc, run_print_bind]
    unfold Context.printed
    rw [hjoin]
    cases hwritten : (c.output.writeText (text a)).2 with
    | error e => rfl
    | ok => exact ih _

end Attempt

end BrokerClient
