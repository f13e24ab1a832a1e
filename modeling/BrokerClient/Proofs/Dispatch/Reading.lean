import BrokerClient.Proofs.Dispatch.Commands
import BrokerClient.Proofs.Session.Reading

/-!
# Commands Ask for No Variables

No handler asks for variables, so it gives the same result on machines that look
alike, leaves the same context behind, and writes the same to both outputs. The
only exception is the command that runs a program: what the program does is not
known here.

## Main definitions

* `Task.Respects`, `Attempt.Respects`: Work that finds the same on machines that look alike.

## Theorems

* `Task.Respects.bind`, `Attempt.Respects.bind`: What the parts respect, the whole respects.
* `Dispatcher.respects_dispatch`: What all handlers respect, the dispatcher does.
* `Commands.respects_dispatcher`: All commands that run no program do the same.
-/

namespace BrokerClient

variable {α β : Type} {asked : OsText → Bool}

/-- Work that gives the same result and the same context on machines that look
    alike, and leaves them alike. -/
def Task.Respects (asked : OsText → Bool) (x : Task α) : Prop :=
  ∀ c, Action.Respects asked (x.run c)

namespace Task.Respects

theorem pure (a : α) : Task.Respects asked (Pure.pure a : Task α) := fun _ => .pure _

/-- What the parts respect, the whole respects. -/
theorem bind {x : Task α} {f : α → Task β} (hx : Task.Respects asked x)
    (hf : ∀ a, Task.Respects asked (f a)) : Task.Respects asked (x >>= f) :=
  fun c => .bind (hx c) fun r => hf r.1 r.2

theorem act {x : Action α} (hx : Action.Respects asked x) :
    Task.Respects asked (liftM x : Task α) := by
  intro c
  refine ⟨fun m m' h => ?_, hx.environment⟩
  rcases hx.alike m m' h with ⟨hresult, hafter⟩
  -- The context goes along unchanged.
  exact ⟨congrArg (·, c) hresult, hafter⟩

theorem update (f : Context → Context) : Task.Respects asked (modify f : Task PUnit) :=
  fun _ => .pure _

theorem forM {γ : Type} {items : List γ} {f : γ → Task PUnit}
    (hf : ∀ a, Task.Respects asked (f a)) : Task.Respects asked (items.forM f) := by
  induction items with
  | nil => exact .pure _
  | cons a items ih => exact .bind (hf a) fun _ => ih

end Task.Respects

/-- The same for an attempt, whether it fails or not. -/
def Attempt.Respects (asked : OsText → Bool) (x : Attempt α) : Prop := Task.Respects asked x.run

namespace Attempt.Respects

theorem pure (a : α) : Attempt.Respects asked (Pure.pure a : Attempt α) := Task.Respects.pure _

theorem fail (e : CommandError) : Attempt.Respects asked (throw e : Attempt α) :=
  Task.Respects.pure _

theorem bind {x : Attempt α} {f : α → Attempt β} (hx : Attempt.Respects asked x)
    (hf : ∀ a, Attempt.Respects asked (f a)) : Attempt.Respects asked (x >>= f) := by
  unfold Attempt.Respects
  rw [ExceptT.run_bind]
  refine Task.Respects.bind hx fun r => ?_
  cases r with
  | ok a => exact hf a
  | error e => exact Task.Respects.pure _

theorem act {x : Action α} (hx : Action.Respects asked x) :
    Attempt.Respects asked (liftM x : Attempt α) := by
  intro c
  refine ⟨fun m m' h => ?_, hx.environment⟩
  rcases hx.alike m m' h with ⟨hresult, hafter⟩
  exact ⟨congrArg (Except.ok ·, c) hresult, hafter⟩

theorem get : Attempt.Respects asked (MonadState.get : Attempt Context) := fun _ => .pure _

theorem set (c : Context) : Attempt.Respects asked (MonadStateOf.set c : Attempt PUnit) :=
  fun _ => .pure _

theorem print (text : String) : Attempt.Respects asked (Attempt.print text) := by
  refine .bind .get fun c => .bind (.set _) fun _ => ?_
  split
  · exact .pure _
  · exact .fail _

theorem forM {γ : Type} {items : List γ} {f : γ → Attempt PUnit}
    (hf : ∀ a, Attempt.Respects asked (f a)) : Attempt.Respects asked (items.forM f) := by
  induction items with
  | nil => exact .pure _
  | cons a items ih => exact .bind (hf a) fun _ => ih

end Attempt.Respects

/-! ## Dispatching -/

namespace Dispatcher

theorem respects_handle (d : Dispatcher) (name : String) {work : Attempt CommandResult}
    (hwork : Attempt.Respects asked work) : Task.Respects asked (d.handle name work) := by
  refine .bind (.act (.log _ _ _ _)) fun _ => .bind hwork fun r => ?_
  cases r with
  | ok result => exact .bind (.act (.log _ _ _ _)) fun _ => .pure _
  | error e =>
    refine .bind (.act (.log _ _ _ _)) fun _ => .bind ?_ fun _ => .pure _
    exact .forM fun line => .update _

/-- What all handlers respect, the dispatcher does. -/
theorem respects_dispatch {d : Dispatcher} {command : Option Command}
    (hhandlers : ∀ name handler, d.handler? name = some handler →
      ∀ c, command = some c → Attempt.Respects asked (handler c)) :
    Task.Respects asked (d.dispatch command) := by
  unfold dispatch
  cases command with
  | none => exact .bind (.update _) fun _ => .pure _
  | some c =>
    simp only
    split
    · exact .bind (.update _) fun _ => .pure _
    · next handler hhandler =>
      exact respects_handle d c.name (hhandlers c.name handler hhandler c rfl)

end Dispatcher

/-! ## Commands -/

namespace Commands

theorem respects_run (launcher : Launcher) {command : Command}
    (h : ∀ words, command ≠ .run words) : Attempt.Respects asked (run launcher command) := by
  unfold run
  split
  · exact .fail _
  · exact absurd rfl (h _)
  · exact .fail _

theorem respects_cookies (command : Command) : Attempt.Respects asked (cookies command) := by
  unfold cookies
  split
  · refine .bind .get fun c => .bind (.act (Session.respects_resolveBroker _ _)) fun r => ?_
    cases r with
    | error e => exact .fail _
    | ok broker => exact .bind (.print _) fun _ => .pure _
  · exact .fail _

theorem respects_config (command : Command) : Attempt.Respects asked (config command) := by
  unfold config
  split
  · exact .bind .get fun c => .bind (.print _) fun _ => .pure _
  · exact .fail _

theorem respects_servers (command : Command) : Attempt.Respects asked (servers command) := by
  unfold servers
  split
  · exact .bind .get fun c => .bind (.forM fun b => .print _) fun _ => .pure _
  · exact .fail _

theorem respects_logout (command : Command) : Attempt.Respects asked (logout command) := by
  unfold logout
  split
  · refine .bind .get fun c => ?_
    split
    · exact .bind (.act (.log _ _ _ _)) fun _ => .pure _
    · refine .bind (.act (Session.respects_logout _ _)) fun r => ?_
      cases r with
      | error e => exact .fail _
      | ok result =>
        exact .bind (.set _) fun _ => .bind (.act (.log _ _ _ _)) fun _ => .pure _
  · exact .fail _

/-- All commands that run no program do the same on machines that look alike. -/
theorem respects_dispatcher (launcher : Launcher) (traces : Bool) {command : Option Command}
    (h : ∀ words, command ≠ some (.run words)) :
    Task.Respects asked ((dispatcher launcher traces).dispatch command) := by
  refine Dispatcher.respects_dispatch fun name handler hhandler c hcommand => ?_
  rcases handler_cases hhandler with rfl | rfl | rfl | rfl | rfl
  -- The handler of programs is given only what is no program here.
  · refine respects_run launcher fun words hrun => h words ?_
    rw [hcommand, hrun]
  · exact respects_cookies c
  · exact respects_config c
  · exact respects_servers c
  · exact respects_logout c

end Commands

end BrokerClient
