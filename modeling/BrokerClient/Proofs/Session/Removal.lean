import BrokerClient.Proofs.Host.Removal
import BrokerClient.Session.Basic

/-!
# Sessions Only Remove

Starting a session reads files, and removes those that cannot be used. Closing
it removes the files of brokers that have lost their cookies. Cookies are never
written, although there is a way to do that: a broker counts as changed only
when its cookies were dropped, and then it has none (`Session.IsSound`).

## Main definitions

* `Session.IsSound`: A broker that has changed has no cookies.

## Theorems

* `Session.isSound_start`: A session begins that way.
* `Session.isSound_of_logout`: Logging out keeps it that way.
* `Session.onlyRemoves_start`: Starting a session only removes.
* `Session.onlyRemoves_close`: So does closing one.
-/

namespace BrokerClient

open Machine (OnlyRemoves)

namespace CookieFile

theorem onlyRemoves_discard (path : Path) (reason : String) :
    Action.Preserves OnlyRemoves (discard path reason) := by
  refine .bind OnlyRemoves.frame (Action.onlyRemoves_log _ _ _ _) fun _ => ?_
  refine .bind OnlyRemoves.frame (Action.onlyRemoves_removeFile path) fun r => ?_
  cases r with
  | ok u => exact .pure OnlyRemoves.frame _
  | error e =>
    simp only
    split
    · exact Action.onlyRemoves_log _ _ _ _
    · exact .pure OnlyRemoves.frame _

theorem onlyRemoves_load (path : Path) : Action.Preserves OnlyRemoves (load path) := by
  refine .bind OnlyRemoves.frame (Action.onlyRemoves_readFile path) fun r => ?_
  cases r with
  | error e =>
    simp only
    split
    · exact .bind OnlyRemoves.frame (onlyRemoves_discard path _) fun _ => .pure OnlyRemoves.frame _
    · exact .pure OnlyRemoves.frame _
  | ok content =>
    simp only
    split
    · exact .pure OnlyRemoves.frame _
    · exact .bind OnlyRemoves.frame (onlyRemoves_discard path _) fun _ => .pure OnlyRemoves.frame _

theorem onlyRemoves_remove (path : Path) : Action.Preserves OnlyRemoves (remove path) := by
  refine .bind OnlyRemoves.frame (Action.onlyRemoves_removeFile path) fun r => ?_
  cases r with
  | ok u =>
    exact Action.onlyRemoves_logged _ _ _ _ _
  | error e => exact .pure OnlyRemoves.frame _

end CookieFile

theorem Inventory.onlyRemoves_read (directory : StateDirectory) (server : Server) (broker : Nat) :
    Action.Preserves OnlyRemoves (read directory server broker) := by
  refine .bind OnlyRemoves.frame (Action.onlyRemoves_readFile _) fun r => ?_
  cases r with
  | error e => exact .pure OnlyRemoves.frame _
  | ok content =>
    simp only
    split <;> exact .pure OnlyRemoves.frame _

namespace Session

/-! ## Starting -/

theorem onlyRemoves_targetsOf {source : TargetSource}
    (hsource : ∀ server broker, Action.Preserves OnlyRemoves (source server broker))
    (server : Server) (broker : Nat) :
    Action.Preserves OnlyRemoves (targetsOf source server broker) := by
  refine .bind OnlyRemoves.frame (hsource server broker) fun r => ?_
  cases r with
  | ok targets => exact .pure OnlyRemoves.frame _
  | error e =>
    exact Action.onlyRemoves_logged _ _ _ _ _

theorem onlyRemoves_connect (directory : StateDirectory) (server : Server) :
    Action.Preserves OnlyRemoves (Broker.connect directory server) :=
  .bind OnlyRemoves.frame (CookieFile.onlyRemoves_load _) fun _ => .pure OnlyRemoves.frame _

theorem onlyRemoves_connectFrom (directory : StateDirectory) {source : TargetSource}
    (hsource : ∀ server broker, Action.Preserves OnlyRemoves (source server broker))
    (broker : Nat) (servers : List Server) :
    Action.Preserves OnlyRemoves (connectFrom directory source broker servers) := by
  induction servers generalizing broker with
  | nil => exact .pure OnlyRemoves.frame _
  | cons server servers ih =>
    refine .bind OnlyRemoves.frame (onlyRemoves_targetsOf hsource server broker) fun targets => ?_
    refine .bind OnlyRemoves.frame (onlyRemoves_connect directory server) fun first => ?_
    exact .bind OnlyRemoves.frame (ih (broker + 1)) fun _ => .pure OnlyRemoves.frame _

/-- Starting a session only removes. -/
theorem onlyRemoves_start (c : Config) : Action.Preserves OnlyRemoves (start c) := by
  refine .bind OnlyRemoves.frame
    (onlyRemoves_connectFrom _ (Inventory.onlyRemoves_read _) 0 c.servers) fun _ => ?_
  exact Action.onlyRemoves_logged _ _ _ _ _

/-! ## Cookies that were dropped -/

/-- A broker that has changed has no cookies. -/
def IsSound (s : Session) : Prop := ∀ b ∈ s.brokers, b.changed = true → b.hasCookies = false

theorem changed_connect (directory : StateDirectory) (server : Server) (m : Machine) :
    ((Broker.connect directory server).run m).1.changed = false := by
  unfold Broker.connect
  rw [Action.run_bind]
  rfl

theorem changed_of_connectFrom (directory : StateDirectory) (source : TargetSource) (broker : Nat)
    (servers : List Server) (m : Machine) :
    ∀ b ∈ ((connectFrom directory source broker servers).run m).1.1, b.changed = false := by
  induction servers generalizing broker m with
  | nil =>
    intro b hb
    cases hb
  | cons server servers ih =>
    intro b hb
    unfold connectFrom at hb
    rw [Action.run_bind, Action.run_bind, Action.run_bind, Action.run_pure] at hb
    rcases List.mem_cons.mp hb with heq | hb
    · rw [heq]
      exact changed_connect _ _ _
    · exact ih _ _ b hb

/-- In the beginning no broker has changed. -/
theorem isSound_start (c : Config) (m : Machine) : IsSound ((start c).run m).1 := by
  intro b hb hchanged
  -- The condition is empty, since nothing was dropped yet.
  have hfalse : b.changed = false := changed_of_connectFrom _ _ 0 c.servers m b hb
  rw [hfalse] at hchanged
  cases hchanged

theorem hasCookies_forget (b : Broker) (h : b.changed = true → b.hasCookies = false) :
    b.forget.changed = true → b.forget.hasCookies = false := by
  unfold Broker.forget
  split
  · intro _
    rfl
  · exact h

theorem isSound_forgetAt {s : Session} (h : s.IsSound) (places : List Nat) :
    (s.forgetAt places).1.IsSound := by
  induction places generalizing s with
  | nil => exact h
  | cons place places ih =>
    unfold forgetAt
    split
    · exact ih h
    · next b hb =>
      -- The broker at this place has lost its cookies, and the others are as before.
      refine ih fun b' hb' => ?_
      rcases List.mem_or_eq_of_mem_set hb' with hmem | rfl
      · exact h b' hmem
      · exact hasCookies_forget b (h b (List.mem_of_getElem? hb))

/-- What logging out makes of a sound session is sound. -/
theorem isSound_of_dropCookies {s s' : Session} (h : s.IsSound) {names : List String}
    {servers : List Server} (hdrop : s.dropCookies names = .ok (s', servers)) : s'.IsSound := by
  rcases exists_of_map_eq_ok hdrop with ⟨places, -, hplaces⟩
  have hsound := isSound_forgetAt h places
  rw [hplaces] at hsound
  exact hsound

theorem onlyRemoves_logout (s : Session) (names : List String) :
    Action.Preserves OnlyRemoves (s.logout names) := by
  unfold logout
  split
  · exact .pure OnlyRemoves.frame _
  · refine .bind OnlyRemoves.frame ?_ fun _ => .pure OnlyRemoves.frame _
    refine .forIn OnlyRemoves.frame fun server _ => ?_
    exact Action.onlyRemoves_logged _ _ _ _ _

/-- Logging out keeps a session sound. -/
theorem isSound_of_logout {s : Session} (h : s.IsSound) (names : List String) (m : Machine)
    {s' : Session} {cleared : Nat} (hlogout : ((s.logout names).run m).1 = .ok (s', cleared)) :
    s'.IsSound := by
  unfold logout at hlogout
  split at hlogout
  · cases hlogout
  · next rest servers hdrop =>
    rw [Action.run_bind, Action.run_pure] at hlogout
    cases hlogout
    exact isSound_of_dropCookies h hdrop

/-! ## Closing -/

/-- A broker without cookies is stored by removing its file. -/
theorem onlyRemoves_flush (directory : StateDirectory) {b : Broker} (h : b.hasCookies = false) :
    Action.Preserves OnlyRemoves (b.flush directory) := by
  unfold Broker.flush
  rw [h, if_neg (by decide)]
  exact .bind OnlyRemoves.frame (CookieFile.onlyRemoves_remove _) fun _ => .pure OnlyRemoves.frame _

theorem onlyRemoves_flushAll (directory : StateDirectory) (first : Option SessionError)
    {brokers : List Broker} (h : ∀ b ∈ brokers, b.hasCookies = false) :
    Action.Preserves OnlyRemoves (flushAll directory first brokers) := by
  induction brokers generalizing first with
  | nil => exact .pure OnlyRemoves.frame _
  | cons b brokers ih =>
    have hrest : ∀ b' ∈ brokers, b'.hasCookies = false :=
      fun b' hb' => h b' (List.mem_cons_of_mem _ hb')
    refine .bind OnlyRemoves.frame (onlyRemoves_flush directory (h b List.mem_cons_self))
      fun r => ?_
    cases r with
    | ok u => exact ih first hrest
    | error e =>
      -- Only the first error is kept, and a later one is logged.
      cases first with
      | none => exact ih _ hrest
      | some e' =>
        exact .bind OnlyRemoves.frame (Action.onlyRemoves_log _ _ _ _) fun _ => ih _ hrest

/-- Closing a sound session only removes. -/
theorem onlyRemoves_close {s : Session} (h : s.IsSound) :
    Action.Preserves OnlyRemoves s.close := by
  -- Only brokers that have changed are stored, and those of a sound session have no cookies.
  have hchanged : ∀ b ∈ s.brokers.filter Broker.changed, b.hasCookies = false := by
    intro b hb
    rcases List.mem_filter.mp hb with ⟨hmem, hb⟩
    exact h b hmem hb
  refine .bind OnlyRemoves.frame (onlyRemoves_flushAll _ none hchanged) fun r => ?_
  cases r <;> exact .pure OnlyRemoves.frame _

end Session

end BrokerClient
