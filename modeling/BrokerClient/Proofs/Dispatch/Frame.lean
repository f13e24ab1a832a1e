import BrokerClient.Dispatch.Dispatcher
import BrokerClient.Proofs.Host.Removal

/-!
# Work in a Context

What a task does is told by a condition on the context before it, a condition
on its result and the context behind it, and a relation between the machines
before and after it. Such a statement about a whole is put together from those
about its parts.

An attempt may fail in between. What it has changed by then stays, so there is a
condition on the context for that end too.

## Main definitions

* `Task.Spec`: What a task does.
* `Attempt.Spec`: What an attempt does.

## Theorems

* `Task.Spec.bind`, `Attempt.Spec.bind`: One part after the other.
* `Task.Spec.act`, `Attempt.Spec.act`: An action leaves the context alone.
* `Dispatcher.spec_handle`: A dispatcher adds only reports to what a handler does.
* `Dispatcher.spec_dispatch`: What all handlers do, the dispatcher does.
-/

namespace BrokerClient

open BrokerClient.Action (Frame Preserves)

variable {α β : Type} {R : Machine → Machine → Prop}

/-- From contexts that meet a condition, a task keeps a relation between
    machines and ends with a result and a context that meet another one. -/
def Task.Spec (R : Machine → Machine → Prop) (P : Context → Prop) (x : Task α)
    (Q : α → Context → Prop) : Prop :=
  ∀ c m, P c → R m ((x.run c).run m).2 ∧ Q ((x.run c).run m).1.1 ((x.run c).run m).1.2

namespace Task.Spec

variable {P : Context → Prop} {Q : α → Context → Prop} {S : β → Context → Prop}

theorem pure (hR : Frame R) {a : α} (h : ∀ c, P c → Q a c) :
    Task.Spec R P (Pure.pure a : Task α) Q :=
  fun c m hc => ⟨hR.refl m, h c hc⟩

/-- One part after the other. -/
theorem bind (hR : Frame R) {x : Task α} {f : α → Task β} (hx : Task.Spec R P x Q)
    (hf : ∀ a, Task.Spec R (Q a) (f a) S) : Task.Spec R P (x >>= f) S := by
  intro c m hc
  rcases hx c m hc with ⟨hR₁, hQ⟩
  rcases hf _ _ ((x.run c).run m).2 hQ with ⟨hR₂, hS⟩
  exact ⟨hR.trans hR₁ hR₂, hS⟩

/-- An action leaves the context alone. -/
theorem act {x : Action α} (hx : Preserves R x) (P : Context → Prop) :
    Task.Spec R P (liftM x : Task α) fun _ => P :=
  fun _ m hc => ⟨hx m, hc⟩

theorem update (hR : Frame R) {f : Context → Context} {S : Context → Prop}
    (h : ∀ c, P c → S (f c)) : Task.Spec R P (modify f : Task PUnit) fun _ => S :=
  fun c m hc => ⟨hR.refl m, h c hc⟩

theorem forM (hR : Frame R) {γ : Type} {items : List γ} {f : γ → Task PUnit}
    (hf : ∀ a, Task.Spec R P (f a) fun _ => P) : Task.Spec R P (items.forM f) fun _ => P := by
  induction items with
  | nil => exact .pure hR fun _ hc => hc
  | cons a items ih => exact .bind hR (hf a) fun _ => ih

end Task.Spec

/-- What holds at the end of an attempt: one condition if it succeeded, and
    another one if it failed. -/
def Attempt.Ends (Q : α → Context → Prop) (E : Context → Prop) :
    Except CommandError α → Context → Prop
  | .ok a, c => Q a c
  | .error _, c => E c

/-- What an attempt does. -/
def Attempt.Spec (R : Machine → Machine → Prop) (P : Context → Prop) (x : Attempt α)
    (Q : α → Context → Prop) (E : Context → Prop) : Prop :=
  Task.Spec R P x.run (Attempt.Ends Q E)

namespace Attempt.Spec

variable {P E : Context → Prop} {Q : α → Context → Prop} {S : β → Context → Prop}

theorem pure (hR : Frame R) {a : α} (h : ∀ c, P c → Q a c) :
    Attempt.Spec R P (Pure.pure a : Attempt α) Q E :=
  Task.Spec.pure hR h

theorem fail (hR : Frame R) {e : CommandError} (h : ∀ c, P c → E c) :
    Attempt.Spec R P (throw e : Attempt α) Q E :=
  Task.Spec.pure hR h

/-- One part after the other, if the first one succeeds. -/
theorem bind (hR : Frame R) {x : Attempt α} {f : α → Attempt β} (hx : Attempt.Spec R P x Q E)
    (hf : ∀ a, Attempt.Spec R (Q a) (f a) S E) : Attempt.Spec R P (x >>= f) S E := by
  unfold Attempt.Spec
  -- If the first part fails, the second one does not begin.
  rw [ExceptT.run_bind]
  refine Task.Spec.bind hR hx fun r => ?_
  cases r with
  | ok a => exact hf a
  | error e => exact Task.Spec.pure hR fun _ hc => hc

theorem lift {x : Action α} {T : α → Prop} (hx : Preserves R x) (hT : ∀ m, T (x.run m).1)
    (P : Context → Prop) (E : Context → Prop) :
    Attempt.Spec R P (liftM x : Attempt α) (fun a c => T a ∧ P c) E :=
  fun _ m hc => ⟨hx m, hT m, hc⟩

theorem act {x : Action α} (hx : Preserves R x) (P : Context → Prop) (E : Context → Prop) :
    Attempt.Spec R P (liftM x : Attempt α) (fun _ => P) E :=
  fun _ m hc => ⟨hx m, hc⟩

theorem get (hR : Frame R) (P : Context → Prop) (E : Context → Prop) :
    Attempt.Spec R P (MonadState.get : Attempt Context) (fun a c => a = c ∧ P c) E :=
  fun _ m hc => ⟨hR.refl m, rfl, hc⟩

theorem set (hR : Frame R) {c : Context} {S : Context → Prop} (h : ∀ c', P c' → S c) :
    Attempt.Spec R P (MonadStateOf.set c : Attempt PUnit) (fun _ => S) E :=
  fun c' m hc => ⟨hR.refl m, h c' hc⟩

theorem weaken {P' : Context → Prop} {x : Attempt α} (h : Attempt.Spec R P x Q E)
    (hP : ∀ c, P' c → P c) : Attempt.Spec R P' x Q E :=
  fun c m hc => h c m (hP c hc)

theorem forM (hR : Frame R) {γ : Type} {items : List γ} {f : γ → Attempt PUnit}
    (hf : ∀ a, Attempt.Spec R P (f a) (fun _ => P) E) :
    Attempt.Spec R P (items.forM f) (fun _ => P) E := by
  induction items with
  | nil => exact .pure hR fun _ hc => hc
  | cons a items ih => exact .bind hR (hf a) fun _ => ih

end Attempt.Spec

/-! ## Outputs -/

/-- Conditions on a context that do not speak of its outputs. -/
structure Context.IgnoresOutput (P : Context → Prop) : Prop where
  output : ∀ c output, P c → P { c with output }
  errors : ∀ c errors, P c → P { c with errors }

theorem Task.spec_report (hR : Frame R) {P : Context → Prop} (hP : Context.IgnoresOutput P)
    (text : String) : Task.Spec R P (Task.report text) fun _ => P :=
  .update hR fun c hc => hP.errors c _ hc

theorem Attempt.spec_print (hR : Frame R) {P : Context → Prop} (hP : Context.IgnoresOutput P)
    (text : String) : Attempt.Spec R P (Attempt.print text) (fun _ => P) P := by
  refine .bind hR (.get hR P P) fun c => ?_
  refine .bind hR (.set hR (S := P) fun c' hc => ?_) fun _ => ?_
  · rw [hc.1]
    exact hP.output c' _ hc.2
  · split
    · exact .pure hR fun _ hc => hc
    · exact .fail hR fun _ hc => hc

/-! ## Dispatching -/

namespace Dispatcher

open Machine (OnlyRemoves)

variable {P : Context → Prop}

/-- A dispatcher adds only events and reports to what a handler does. -/
theorem spec_handle (hR : Frame R) (hweak : ∀ m m', OnlyRemoves m m' → R m m')
    (hP : Context.IgnoresOutput P) (d : Dispatcher) (name : String)
    {work : Attempt CommandResult} (hwork : Attempt.Spec R P work (fun _ => P) P) :
    Task.Spec R P (d.handle name work) fun _ => P := by
  -- What the dispatcher reports about a command goes to the log and to the errors.
  have hlog : ∀ level target message fields error,
      Task.Spec R P (liftM (Action.log level target message fields error) : Task Unit) fun _ => P :=
    fun level target message fields _ =>
      .act ((Action.onlyRemoves_log level target message fields).mono hweak) P
  -- A handler that fails may have changed the context, so both ends of it are followed.
  refine .bind hR (hlog _ _ _ _ _) fun _ => .bind hR hwork fun r => ?_
  cases r with
  | ok result => exact .bind hR (hlog _ _ _ _ _) fun _ => .pure hR fun _ hc => hc
  | error e =>
    refine .bind hR (hlog _ _ _ _ _) fun _ => .bind hR ?_ fun _ => .pure hR fun _ hc => hc
    exact .forM hR fun line => Task.spec_report hR hP _

/-- What all handlers do with a command, the dispatcher does. -/
theorem spec_dispatch (hR : Frame R) (hweak : ∀ m m', OnlyRemoves m m' → R m m')
    (hP : Context.IgnoresOutput P) {d : Dispatcher} {command : Option Command}
    (hhandlers : ∀ name handler, d.handler? name = some handler →
      ∀ c, command = some c → Attempt.Spec R P (handler c) (fun _ => P) P) :
    Task.Spec R P (d.dispatch command) fun _ => P := by
  unfold dispatch
  cases command with
  | none => exact .bind hR (Task.spec_report hR hP _) fun _ => .pure hR fun _ hc => hc
  | some c =>
    simp only
    split
    · exact .bind hR (Task.spec_report hR hP _) fun _ => .pure hR fun _ hc => hc
    · next handler hhandler =>
      exact spec_handle hR hweak hP d c.name (hhandlers c.name handler hhandler c rfl)

/-- A handler that was found was registered. -/
theorem mem_of_handler? {handlers : List (String × Handler)} {traces : Bool} {name : String}
    {handler : Handler}
    (h : (handlers.foldl (fun d h => d.register h.1 h.2) (empty traces)).handler? name =
      some handler) : ∃ key, (key, handler) ∈ handlers := by
  -- The induction is on the registrations that are still to come.
  have hfold : ∀ (handlers : List (String × Handler)) (d : Dispatcher),
      (handlers.foldl (fun d h => d.register h.1 h.2) d).handler? name = some handler →
        (∃ key, (key, handler) ∈ handlers) ∨ d.handler? name = some handler := by
    intro handlers
    induction handlers with
    | nil => exact fun d hd => .inr hd
    | cons first handlers ih =>
      intro d hd
      rcases ih _ hd with ⟨key, hkey⟩ | hd
      · exact .inl ⟨key, List.mem_cons_of_mem _ hkey⟩
      · unfold handler? register at hd
        simp only at hd
        rw [KeyedList.lookup_insert] at hd
        split at hd
        · exact .inl ⟨first.1, by rw [← Option.some.inj hd]; exact List.mem_cons_self⟩
        · exact .inr hd
  rcases hfold handlers (empty traces) h with hmem | hempty
  · exact hmem
  · cases hempty

end Dispatcher

end BrokerClient
