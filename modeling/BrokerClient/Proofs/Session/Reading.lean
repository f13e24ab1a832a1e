import BrokerClient.Proofs.Host.Alike
import BrokerClient.Session.Basic

/-!
# Sessions Ask for No Variables

What a session is made of comes from the configuration and from files. So it is
the same on machines that differ in variables only, and the same files are
removed on the way because they cannot be used. Names lead to the same brokers,
and logging out does the same.

## Theorems

* `Session.respects_start`: A session begins the same on machines that look alike.
* `Session.respects_resolveBroker`: Names lead to the same brokers.
* `Session.respects_logout`: Logging out does the same.
-/

namespace BrokerClient

open BrokerClient.Action (Respects)

variable {asked : OsText → Bool}

namespace CookieFile

theorem respects_discard (path : Path) (reason : String) :
    Respects asked (discard path reason) := by
  refine .bind (.log _ _ _ _) fun _ => .bind (.removeFile path) fun r => ?_
  cases r with
  | ok u => exact .pure _
  | error e =>
    simp only
    split
    · exact .log _ _ _ _
    · exact .pure _

theorem respects_load (path : Path) : Respects asked (load path) := by
  refine .bind (.readFile path) fun r => ?_
  cases r with
  | error e =>
    simp only
    split
    · exact .bind (respects_discard path _) fun _ => .pure _
    · exact .pure _
  | ok content =>
    simp only
    split
    · exact .pure _
    · exact .bind (respects_discard path _) fun _ => .pure _

end CookieFile

theorem Inventory.respects_read (directory : StateDirectory) (server : Server) (broker : Nat) :
    Respects asked (read directory server broker) := by
  refine .bind (.readFile _) fun r => ?_
  cases r with
  | error e => exact .pure _
  | ok content =>
    simp only
    split <;> exact .pure _

theorem Broker.respects_connect (directory : StateDirectory) (server : Server) :
    Respects asked (connect directory server) :=
  .bind (CookieFile.respects_load _) fun _ => .pure _

namespace Session

theorem respects_targetsOf {source : TargetSource}
    (hsource : ∀ server broker, Respects asked (source server broker)) (server : Server)
    (broker : Nat) : Respects asked (targetsOf source server broker) := by
  refine .bind (hsource server broker) fun r => ?_
  cases r with
  | ok targets => exact .pure _
  | error e => exact .bind (.log _ _ _ _) fun _ => .pure _

theorem respects_connectFrom (directory : StateDirectory) {source : TargetSource}
    (hsource : ∀ server broker, Respects asked (source server broker)) (broker : Nat)
    (servers : List Server) : Respects asked (connectFrom directory source broker servers) := by
  induction servers generalizing broker with
  | nil => exact .pure _
  | cons server servers ih =>
    refine .bind (respects_targetsOf hsource server broker) fun targets => ?_
    refine .bind (Broker.respects_connect directory server) fun first => ?_
    exact .bind (ih (broker + 1)) fun _ => .pure _

/-- A session begins the same on machines that look alike. -/
theorem respects_start (c : Config) : Respects asked (start c) :=
  .bind (respects_connectFrom _ (Inventory.respects_read _) 0 c.servers) fun _ =>
    .bind (.log _ _ _ _) fun _ => .pure _

/-- Names lead to the same brokers. -/
theorem respects_resolveBroker (s : Session) (name : String) :
    Respects asked (s.resolveBroker name) := by
  unfold resolveBroker
  split
  · exact .pure _
  · split
    · exact .pure _
    · refine .bind (.log _ _ _ _) fun _ => ?_
      split <;> exact .pure _

/-- Logging out does the same. -/
theorem respects_logout (s : Session) (names : List String) : Respects asked (s.logout names) := by
  unfold logout
  split
  · exact .pure _
  · refine .bind ?_ fun _ => .pure _
    exact .forIn fun server _ => .bind (.log _ _ _ _) fun _ => .pure _

end Session

end BrokerClient
