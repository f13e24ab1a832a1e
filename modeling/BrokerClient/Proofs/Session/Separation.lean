import BrokerClient.Proofs.Server.Addresses
import BrokerClient.Proofs.Session.Forgetting
import BrokerClient.Proofs.Session.Targets
import Mathlib.Control.Monad.Basic

/-!
# Brokers of Different Keys

Servers share no files if their keys differ. Then a broker begins with what its own
files hold, whatever is in those of the others, and what becomes of the others leaves
its cookie file alone: a session may be logged out of as often as one likes, and
cookies that were never selected are still stored when it has been closed.

That the addresses differ is not enough. A key is an address without its colons,
slashes and blanks, so it does not say where one piece of the host ends and the next
begins, or where the port begins. Of two brokers with one key each has the cookies of
the other, and one of them forgets for both.

## Theorems

* `Session.opened_of_own_files`: A broker begins with what its own files hold.
* `Session.kept_of_not_selected`: Cookies whose key is not selected stay stored.
* `Session.brokers_keep_apart`: Servers with different keys share no state.
* `Session.different_addresses_share`: Servers with different addresses may share their state.
-/

namespace BrokerClient

open StateDirectory

namespace Session

variable {c : Config} {m : Machine} {j : Nat} {server : Server}

/-- A broker begins with what its own files hold, and so do its targets. -/
theorem opened_of_own_files (hserver : c.servers[j]? = some server) {m' : Machine}
    (hcookies : m'.files.read m'.workDirectory (c.stateDirectory.cookiesPath server) =
      m.files.read m.workDirectory (c.stateDirectory.cookiesPath server))
    (hinventory : m'.files.read m'.workDirectory (c.stateDirectory.inventoryPath server) =
      m.files.read m.workDirectory (c.stateDirectory.inventoryPath server)) :
    ((start c).run m').1.brokers[j]? = ((start c).run m).1.brokers[j]? ∧
      ((start c).run m').1.targets.filter (·.broker = j) =
        ((start c).run m).1.targets.filter (·.broker = j) := by
  constructor
  · have hstored :
        CookieFile.stored m'.files m'.workDirectory (c.stateDirectory.cookiesPath server) =
        CookieFile.stored m.files m.workDirectory (c.stateDirectory.cookiesPath server) := by
      unfold CookieFile.stored
      rw [hcookies]
    rw [getElem?_brokers_start, getElem?_brokers_start, hserver, Option.map_some, Option.map_some]
    unfold Broker.opened
    rw [hstored]
  · rw [targets_at_place hserver, targets_at_place hserver]
    unfold Inventory.recorded
    rw [hinventory]

/-- Cookies stay stored if no broker with their key is selected. A file that cannot be
    used holds none to begin with. -/
theorem kept_of_not_selected {calls : List (List String)}
    (hothers : ∀ i server', c.servers[i]? = some server' → ((start c).run m).1.IsSelected calls i →
      server'.fileKey ≠ server.fileKey) :
    let closed := ((visit c calls).run m).1.close.run ((visit c calls).run m).2
    let path := c.stateDirectory.cookiesPath server
    CookieFile.stored closed.2.files m.workDirectory path =
        CookieFile.stored m.files m.workDirectory path ∧
      (CookieFile.isSpoiled m.files m.workDirectory path = false →
        closed.2.files.read m.workDirectory path = m.files.read m.workDirectory path) := by
  intro closed path
  have hfiles := (left_closed c m calls).files
  have hnames : ∀ name, forgottenNames c m calls name → Path.IsName name.bytes := by
    intro name hname
    rcases exists_of_forgottenNames c m calls hname with ⟨s, rfl⟩
    exact isName_cookiesName s
  -- Only a file that cannot be used goes away.
  have hspoiled : forgottenNames c m calls (cookiesName server) →
      CookieFile.isSpoiled m.files m.workDirectory path = true := by
    rintro ⟨i, server', hserver', hwhy, hname⟩
    have hkey := fileName_inj.mp hname
    rcases hwhy with hspoiled | ⟨-, hselected⟩
    · rwa [(cookiesPath_inj c.stateDirectory).mpr hkey.symm] at hspoiled
    · exact absurd hkey.symm (hothers i server' hserver' hselected)
  by_cases hgone : forgottenNames c m calls (cookiesName server) ∧
      ∃ place, m.files.Removable m.workDirectory path place
  -- It held no cookies, and it is not there any more.
  · rcases hgone with ⟨hmem, place, hremovable⟩
    have hread : closed.2.files.read m.workDirectory path = .error (.system .noEntry) :=
      hfiles.read_of_removable hnames hmem hremovable
    refine ⟨?_, fun hunspoiled => ?_⟩
    · rw [CookieFile.stored_of_noEntry hread, CookieFile.stored_of_isSpoiled (hspoiled hmem)]
    · rw [hspoiled hmem] at hunspoiled
      cases hunspoiled
  · have hread : closed.2.files.read m.workDirectory path = m.files.read m.workDirectory path :=
      hfiles.read_eq hnames (fun place hmem hremovable => hgone ⟨hmem, place, hremovable⟩)
        (isName_cookiesName server)
    exact ⟨CookieFile.stored_congr hread, fun _ => hread⟩

/-- Servers with different keys share no state. Their files have different paths, each
    broker begins with what its own two files hold, and cookies that are never selected
    for dropping are stored in the end as they were. -/
theorem brokers_keep_apart (c : Config) (hkeys : (c.servers.map Server.fileKey).Nodup)
    (m : Machine) :
    (∀ (d : StateDirectory) (server server' : Server),
      (d.cookiesPath server = d.cookiesPath server' ↔ server.fileKey = server'.fileKey) ∧
      (d.inventoryPath server = d.inventoryPath server' ↔ server.fileKey = server'.fileKey) ∧
      d.cookiesPath server ≠ d.inventoryPath server') ∧
    (∀ j server m', c.servers[j]? = some server →
      m'.files.read m'.workDirectory (c.stateDirectory.cookiesPath server) =
        m.files.read m.workDirectory (c.stateDirectory.cookiesPath server) →
      m'.files.read m'.workDirectory (c.stateDirectory.inventoryPath server) =
        m.files.read m.workDirectory (c.stateDirectory.inventoryPath server) →
      ((start c).run m').1.brokers[j]? = ((start c).run m).1.brokers[j]? ∧
        ((start c).run m').1.targets.filter (·.broker = j) =
          ((start c).run m).1.targets.filter (·.broker = j)) ∧
    ∀ calls j server, c.servers[j]? = some server → ¬((start c).run m).1.IsSelected calls j →
      let closed := ((visit c calls).run m).1.close.run ((visit c calls).run m).2
      let path := c.stateDirectory.cookiesPath server
      CookieFile.stored closed.2.files m.workDirectory path =
          CookieFile.stored m.files m.workDirectory path ∧
        (CookieFile.isSpoiled m.files m.workDirectory path = false →
          closed.2.files.read m.workDirectory path = m.files.read m.workDirectory path) := by
  refine ⟨fun d server server' => ⟨cookiesPath_inj d, inventoryPath_inj d,
      cookiesPath_ne_inventoryPath d server server'⟩,
    fun j server m' hserver hcookies hinventory => opened_of_own_files hserver hcookies hinventory,
    fun calls j server hserver hselected => ?_⟩
  refine kept_of_not_selected fun i server' hserver' hi hkey => ?_
  -- Keys are different, so a selected broker with this key is this one.
  rw [place_eq_of_nodup hkeys hserver hserver' hkey.symm] at hselected
  exact hselected hi

/-- Logging out of one loopback server leaves the cookies of another one. -/
theorem brokers_keep_apart_loopback :
    let first := Server.atPieces [0, 0, 0, 0, 0, 0, 0, 1]
    let second := Server.atPieces [0, 0, 0, 0, 0, 0, 0, 2]
    let c : Config := ⟨"/state", "/share", [first, second], "warn", .compact, 1, "make"⟩
    let m : Machine := { (default : Machine) with
      files := ⟨[(["state", "cookies-http[1].json"],
          .file (Utf8.encode "\x7b\"sid\": \"1\"\x7d".toList) 0o600),
        (["state"], .directory 0o700)]⟩ }
    let reached := (visit c [["http://[::2]"]]).run m
    let closed := reached.1.close.run reached.2
    Server.parse "http://[::1]" = .ok first ∧ Server.parse "http://[::2]" = .ok second ∧
      CookieFile.stored closed.2.files m.workDirectory (c.stateDirectory.cookiesPath first) =
        [("sid", "1")] := by
  intro first second c m reached closed
  have hkeys : (c.servers.map Server.fileKey).Nodup := by decide +kernel
  have hselected : ((start c).run m).1.selected ["http://[::2]"] = .ok [1] := by decide +kernel
  -- The name leads to the second server only.
  have hother : ¬((start c).run m).1.IsSelected [["http://[::2]"]] 0 := by
    rintro ⟨names, hnames, places, hplaces, hmem⟩
    rw [List.mem_singleton.mp hnames, hselected] at hplaces
    rw [← Except.ok.inj hplaces] at hmem
    exact absurd hmem (by decide)
  refine ⟨by decide +kernel, by decide +kernel, ?_⟩
  rw [((brokers_keep_apart c hkeys m).2.2 _ 0 first rfl hother).1]
  decide +kernel

/-- Servers with different addresses may share their state: each has the same cookies,
    and they are gone for both when one has been logged out of. -/
theorem different_addresses_share :
    let first := Server.atPieces [0, 0, 0, 0, 0, 0, 0, 0x12]
    let second := Server.atPieces [1, 0, 0, 0, 0, 0, 0, 2]
    let c : Config := ⟨"/state", "/share", [first, second], "warn", .compact, 1, "make"⟩
    let m : Machine := { (default : Machine) with
      files := ⟨[(["state", "cookies-http[12].json"],
          .file (Utf8.encode "\x7b\"sid\": \"1\"\x7d".toList) 0o600),
        (["state"], .directory 0o700)]⟩ }
    let reached := (visit c [["http://[1::2]"]]).run m
    let closed := reached.1.close.run reached.2
    Server.parse "http://[::12]" = .ok first ∧ Server.parse "http://[1::2]" = .ok second ∧
      first.url.serialize ≠ second.url.serialize ∧
      (∀ d : StateDirectory, d.cookiesPath first = d.cookiesPath second ∧
        d.inventoryPath first = d.inventoryPath second) ∧
      ((start c).run m).1.selected ["http://[1::2]"] = .ok [1] ∧
      CookieFile.stored m.files m.workDirectory (c.stateDirectory.cookiesPath first) =
        [("sid", "1")] ∧
      CookieFile.stored closed.2.files m.workDirectory (c.stateDirectory.cookiesPath first) =
        [] := by
  intro first second c m reached closed
  -- Without its colons each address is `http[12]`.
  have hkey : first.fileKey = second.fileKey := by decide +kernel
  exact ⟨by decide +kernel, by decide +kernel, by decide +kernel,
    fun d => ⟨(cookiesPath_inj d).mpr hkey, (inventoryPath_inj d).mpr hkey⟩, by decide +kernel,
    by decide +kernel, by decide +kernel⟩

end Session

end BrokerClient
