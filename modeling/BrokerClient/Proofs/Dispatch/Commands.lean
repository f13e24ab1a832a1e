import BrokerClient.Commands
import BrokerClient.Proofs.Dispatch.Frame
import BrokerClient.Proofs.Program.Recording
import BrokerClient.Proofs.Session.Removal

/-!
# What the Commands Do

No command asks to go on as another program. The command that runs a program
does on the machine what the program does, and all others do no more than
writing events. None of them makes a session unsound.

## Main definitions

* `Commands.HasSoundSession`: Whether the session in a context is sound.
* `Commands.Keeps`: What a handler does on the machine.

## Theorems

* `Commands.keeps_run`: Running a program does what the program does.
* `Commands.keeps_logout`: Logging out keeps a session sound.
* `Commands.handler_cases`: The handlers there are.
* `Commands.spec_dispatcher`: What a command does.
-/

namespace BrokerClient

namespace Commands

open BrokerClient.Action (Frame Preserves)
open Machine (OnlyRemoves)

/-- Whether the session in a context is sound. -/
def HasSoundSession (c : Context) : Prop := c.session.IsSound

theorem ignoresOutput_hasSoundSession : Context.IgnoresOutput HasSoundSession :=
  ⟨fun _ _ hc => hc, fun _ _ hc => hc⟩

/-- What a handler does on the machine, in a sound session. -/
def Keeps (R : Machine → Machine → Prop) (work : Attempt CommandResult) : Prop :=
  Attempt.Spec R HasSoundSession work (fun _ => HasSoundSession) HasSoundSession

variable {R : Machine → Machine → Prop}

theorem keeps_mismatched (hR : Frame R) (expected : String) (command : Command) :
    Keeps R (mismatched expected command) :=
  .fail hR fun _ hc => hc

theorem spec_log (hweak : ∀ m m', OnlyRemoves m m' → R m m') (level : Log.Level)
    (target message : String) (fields : List (String × String)) (P E : Context → Prop) :
    Attempt.Spec R P (liftM (Action.log level target message fields) : Attempt Unit)
      (fun _ => P) E :=
  .act ((Action.onlyRemoves_log level target message fields).mono hweak) P E

/-- Running a program does what the program does. -/
theorem keeps_run (hR : Frame R) (hweak : ∀ m m', OnlyRemoves m m' → R m m') {launcher : Launcher}
    {command : Command} (hlauncher : ∀ program arguments, command = .run (program :: arguments) →
      Preserves R (launcher.launch program arguments)) : Keeps R (run launcher command) := by
  unfold run
  split
  · exact .fail hR fun _ hc => hc
  · refine .bind hR (spec_log hweak _ _ _ _ _ _) fun _ => ?_
    refine .bind hR (.act (hlauncher _ _ rfl) _ _) fun r => ?_
    cases r with
    | ok status => exact .pure hR fun _ hc => hc
    | error e => exact .fail hR fun _ hc => hc
  · exact keeps_mismatched hR _ _

theorem onlyRemoves_resolveBroker (s : Session) (name : String) :
    Preserves OnlyRemoves (s.resolveBroker name) := by
  unfold Session.resolveBroker
  split
  · exact .pure OnlyRemoves.frame _
  · split
    · exact .pure OnlyRemoves.frame _
    · refine .bind OnlyRemoves.frame (Action.onlyRemoves_log _ _ _ _) fun _ => ?_
      split <;> exact .pure OnlyRemoves.frame _

theorem keeps_cookies (hR : Frame R) (hweak : ∀ m m', OnlyRemoves m m' → R m m')
    (command : Command) : Keeps R (cookies command) := by
  unfold cookies
  split
  · refine .bind hR (.get hR _ _) fun c => .weaken ?_ fun _ hc => hc.2
    refine .bind hR (.act ((onlyRemoves_resolveBroker _ _).mono hweak) _ _) fun r => ?_
    cases r with
    | error e => exact .fail hR fun _ hc => hc
    | ok broker =>
      exact .bind hR (Attempt.spec_print hR ignoresOutput_hasSoundSession _) fun _ =>
        .pure hR fun _ hc => hc
  · exact keeps_mismatched hR _ _

theorem keeps_config (hR : Frame R) (command : Command) : Keeps R (config command) := by
  unfold config
  split
  · refine .bind hR (.get hR _ _) fun c => .weaken ?_ fun _ hc => hc.2
    exact .bind hR (Attempt.spec_print hR ignoresOutput_hasSoundSession _) fun _ =>
      .pure hR fun _ hc => hc
  · exact keeps_mismatched hR _ _

theorem keeps_servers (hR : Frame R) (command : Command) : Keeps R (servers command) := by
  unfold servers
  split
  · refine .bind hR (.get hR _ _) fun c => .weaken ?_ fun _ hc => hc.2
    exact .bind hR (.forM hR fun b => Attempt.spec_print hR ignoresOutput_hasSoundSession _)
      fun _ => .pure hR fun _ hc => hc
  · exact keeps_mismatched hR _ _

/-- Logging out keeps a session sound. -/
theorem keeps_logout (hR : Frame R) (hweak : ∀ m m', OnlyRemoves m m' → R m m')
    (command : Command) : Keeps R (logout command) := by
  unfold logout
  split
  · next names =>
    -- The session that is stored is the one that was read, with some cookies dropped.
    refine .bind hR (.get hR _ _) fun c => ?_
    split
    · refine .weaken ?_ fun _ hc => hc.2
      exact .bind hR (spec_log hweak _ _ _ _ _ _) fun _ => .pure hR fun _ hc => hc
    · refine .bind hR (.lift ((Session.onlyRemoves_logout c.session names).mono hweak)
        (T := fun r => c.session.IsSound → ∀ s' cleared, r = .ok (s', cleared) → s'.IsSound)
        (fun m hsound s' cleared hr => Session.isSound_of_logout hsound names m hr) _ _) fun r => ?_
      cases r with
      | error e => exact .fail hR fun _ hc => hc.2.2
      | ok result =>
        rcases result with ⟨s', cleared⟩
        refine .bind hR (.set hR (S := HasSoundSession) fun c' hc => ?_) fun _ => ?_
        · refine hc.1 ?_ s' cleared rfl
          rw [hc.2.1]
          exact hc.2.2
        · exact .bind hR (spec_log hweak _ _ _ _ _ _) fun _ => .pure hR fun _ hc => hc
  · exact keeps_mismatched hR _ _

/-- There are five handlers. -/
theorem handler_cases {launcher : Launcher} {traces : Bool} {name : String} {handler : Handler}
    (h : (dispatcher launcher traces).handler? name = some handler) :
    handler = run launcher ∨ handler = cookies ∨ handler = config ∨ handler = servers ∨
      handler = logout := by
  rcases Dispatcher.mem_of_handler? h with ⟨key, hkey⟩
  unfold handlers at hkey
  simp only [List.mem_cons, Prod.mk.injEq, List.not_mem_nil, or_false] at hkey
  rcases hkey with ⟨-, hrun⟩ | ⟨-, hcookies⟩ | ⟨-, hconfig⟩ | ⟨-, hservers⟩ | ⟨-, hlogout⟩
  · exact .inl hrun
  · exact .inr (.inl hcookies)
  · exact .inr (.inr (.inl hconfig))
  · exact .inr (.inr (.inr (.inl hservers)))
  · exact .inr (.inr (.inr (.inr hlogout)))

/-- What a command does on the machine, if the program that it runs does
    that. -/
theorem spec_dispatcher (hR : Frame R) (hweak : ∀ m m', OnlyRemoves m m' → R m m')
    {launcher : Launcher} {command : Option Command}
    (hlauncher : ∀ program arguments, command = some (.run (program :: arguments)) →
      Preserves R (launcher.launch program arguments)) (traces : Bool) :
    Task.Spec R HasSoundSession ((dispatcher launcher traces).dispatch command)
      fun _ => HasSoundSession := by
  refine Dispatcher.spec_dispatch hR hweak ignoresOutput_hasSoundSession ?_
  intro name handler hhandler c hcommand
  rcases handler_cases hhandler with rfl | rfl | rfl | rfl | rfl
  · refine keeps_run hR hweak fun program arguments hrun => hlauncher program arguments ?_
    rw [hcommand, hrun]
  · exact keeps_cookies hR hweak c
  · exact keeps_config hR c
  · exact keeps_servers hR c
  · exact keeps_logout hR hweak c

end Commands

end BrokerClient
