import BrokerClient.Proofs.Session.Removal
import BrokerClient.Proofs.Session.StateFiles

/-!
# What a Session Begins With

A session is opened server by server: the inventory of a server is read, then its
cookie file, and a cookie file that cannot be used is removed on the way. So the
files of a server are looked up in a tree that may lack files of servers before
it. This does not show. An inventory is never removed. A cookie file that was
removed belongs to every server of that name, and it could not be used, so these
servers have no cookies either way.

The invariant of the loop is `Machine.Left`: the files are those of the beginning
without the ones under some names. By it everything that is found is what the
files hold before the session is opened, and the session is a value that can be
read off them (`Session.opened`).

## Main definitions

* `CookieFile.stored`: The cookies in a file.
* `CookieFile.isSpoiled`: Whether a file cannot be used.
* `Inventory.recorded`: The targets in the inventory of a server.
* `Machine.Left`: What is left on a machine when files under some names are gone.
* `StateDirectory.spoiledNames`: The names of the cookie files that cannot be used.
* `Session.opened`: The session of a configuration over some files.

## Theorems

* `Broker.run_connect`: What connecting one server finds and leaves.
* `Session.run_connectFrom`: What connecting all servers finds and leaves.
* `Session.run_start`: A session begins as the files say, and without files that cannot be used.
-/

namespace BrokerClient

/-! ## Files of the beginning -/

namespace CookieFile

/-- The cookies in a file. There are none in a file that cannot be used. -/
def stored (t : FileTree) (work : Place) (p : Path) : Cookies :=
  match t.read work p with
  | .ok content => (decode? content).getD []
  | .error _ => []

/-- Whether a file cannot be used. There is something under its path, and it
    cannot be read or is no object of texts. -/
def isSpoiled (t : FileTree) (work : Place) (p : Path) : Bool :=
  match t.read work p with
  | .ok content => (decode? content).isNone
  | .error e => !e.isNotFound

variable {t t' : FileTree} {work : Place} {p : Path}

theorem stored_of_isSpoiled (h : isSpoiled t work p = true) : stored t work p = [] := by
  unfold isSpoiled at h
  unfold stored
  split
  · next content hread =>
    rw [hread] at h
    rw [Option.isNone_iff_eq_none.mp h]
    rfl
  · rfl

theorem stored_congr (h : t'.read work p = t.read work p) : stored t' work p = stored t work p := by
  unfold stored
  rw [h]

theorem isSpoiled_congr (h : t'.read work p = t.read work p) :
    isSpoiled t' work p = isSpoiled t work p := by
  unfold isSpoiled
  rw [h]

theorem stored_of_noEntry (h : t.read work p = .error (.system .noEntry)) :
    stored t work p = [] := by
  unfold stored
  rw [h]

theorem isSpoiled_of_noEntry (h : t.read work p = .error (.system .noEntry)) :
    isSpoiled t work p = false := by
  unfold isSpoiled
  rw [h]
  rfl

end CookieFile

/-- The targets in the inventory of a server, given the place of the server.
    There are none without an inventory, or in one that cannot be used. -/
def Inventory.recorded (t : FileTree) (work : Place) (directory : StateDirectory) (server : Server)
    (broker : Nat) : List Target :=
  match t.read work (directory.inventoryPath server) with
  | .error _ => []
  | .ok content =>
    match Json.parse content with
    | .ok document => targets document server.name broker
    | .error _ => []

/-- The broker of a server with the cookies of its file. -/
def Broker.opened (t : FileTree) (work : Place) (directory : StateDirectory) (server : Server) :
    Broker :=
  ⟨server, CookieFile.stored t work (directory.cookiesPath server), directory.cookiesPath server,
    false⟩

theorem Broker.server_opened (t : FileTree) (work : Place) (d : StateDirectory)
    (server : Server) : (Broker.opened t work d server).server = server := rfl

theorem Broker.cookiesPath_opened (t : FileTree) (work : Place) (d : StateDirectory)
    (server : Server) : (Broker.opened t work d server).cookiesPath = d.cookiesPath server := by
  rw [Broker.opened]

/-- The session of a configuration over some files: a broker for each server, and
    the targets of all inventories one after the other. -/
def Session.opened (c : Config) (t : FileTree) (work : Place) : Session where
  directory := c.stateDirectory
  brokers := c.servers.map (Broker.opened t work c.stateDirectory)
  targets := c.servers.zipIdx.flatMap fun s => Inventory.recorded t work c.stateDirectory s.1 s.2

/-! ## What is left -/

/-- On a machine is left what there was before the files under some names in a
    directory went away. -/
structure Machine.Left (t : FileTree) (work : Place) (base : Path) (names : OsText → Prop)
    (m : Machine) : Prop where
  workDirectory : m.workDirectory = work
  files : t.Loses m.files (t.swept work base names)

namespace Machine.Left

variable {t : FileTree} {work : Place} {base : Path} {names : OsText → Prop} {m m' : Machine}

theorem refl (m : Machine) (base : Path) :
    Left m.files m.workDirectory base (fun _ => False) m :=
  ⟨rfl, .refl _ fun _ ⟨_, hname, _⟩ => hname⟩

theorem congr {names' : OsText → Prop} (h : Left t work base names m)
    (hiff : ∀ name, names' name ↔ names name) : Left t work base names' m :=
  ⟨h.workDirectory, h.files.congr (FileTree.swept_congr hiff)⟩

theorem of_files (h : Left t work base names m) (hfiles : m'.files = m.files)
    (hwork : m'.workDirectory = m.workDirectory) : Left t work base names m' :=
  ⟨hwork.trans h.workDirectory, hfiles ▸ h.files⟩

end Machine.Left

open Machine (Left)

namespace Action

theorem run_readFile (p : Path) (m : Machine) :
    (readFile p).run m = (m.files.read m.workDirectory p, m) := rfl

/-- Whether a removal succeeds or not, it leaves what is there without the
    file. -/
theorem files_removeFile (p : Path) (m : Machine) :
    ((removeFile p).run m).2.files = m.files.without m.workDirectory p := by
  unfold removeFile FileTree.without
  cases hremove : m.files.remove m.workDirectory p with
  | error e => rw [run_changeFiles_error hremove]
  | ok files => rw [run_changeFiles_ok hremove]

end Action

namespace CookieFile

theorem files_discard (p : Path) (reason : String) (m : Machine) :
    ((discard p reason).run m).2.files = m.files.without m.workDirectory p := by
  -- What is logged before and after the removal leaves the files alone.
  have hremove := Action.files_removeFile p ((Action.log .warn logTarget
    "discarding unreadable cookies file" [("file", p.shown), ("reason", reason)]).run m).2
  unfold discard
  rw [Action.run_bind, Action.run_bind]
  refine Eq.trans ?_ hremove
  split
  · rfl
  · split <;> rfl

theorem files_remove (p : Path) (m : Machine) :
    ((remove p).run m).2.files = m.files.without m.workDirectory p := by
  unfold remove
  rw [Action.run_bind, ← Action.files_removeFile p m]
  split <;> rfl

theorem run_load (p : Path) (m : Machine) :
    ((load p).run m).1 = stored m.files m.workDirectory p ∧
      ((load p).run m).2.files =
        if isSpoiled m.files m.workDirectory p then m.files.without m.workDirectory p
        else m.files := by
  unfold load stored isSpoiled
  rw [Action.run_bind, Action.run_readFile]
  cases m.files.read m.workDirectory p with
  | error e =>
    -- A file that is missing is not discarded.
    cases hfound : e.isNotFound with
    | true => simp only [hfound]; exact ⟨rfl, rfl⟩
    | false =>
      simp only [hfound]
      exact ⟨rfl, files_discard p e.message m⟩
  | ok content =>
    cases hdecode : decode content with
    | ok cookies => simp only [hdecode, decode?_of_ok hdecode]; exact ⟨rfl, rfl⟩
    | error flaw =>
      simp only [hdecode, decode?_of_error hdecode]
      exact ⟨rfl, files_discard p (flaw.message content) m⟩

end CookieFile

/-! ## One server -/

namespace StateDirectory

/-- The names of the cookie files of some servers that cannot be used. -/
def spoiledNames (t : FileTree) (work : Place) (d : StateDirectory) (servers : List Server)
    (name : OsText) : Prop :=
  ∃ s ∈ servers, CookieFile.isSpoiled t work (d.cookiesPath s) = true ∧ name = cookiesName s

variable {t : FileTree} {work : Place} {d : StateDirectory} {servers : List Server}

theorem isName_of_spoiledNames {name : OsText} (h : spoiledNames t work d servers name) :
    Path.IsName name.bytes := by
  rcases h with ⟨s, -, -, rfl⟩
  exact isName_cookiesName s

theorem spoiledNames_append (s : Server) (name : OsText) :
    spoiledNames t work d (servers ++ [s]) name ↔
      spoiledNames t work d servers name ∨
        CookieFile.isSpoiled t work (d.cookiesPath s) = true ∧ name = cookiesName s := by
  simp only [spoiledNames, List.mem_append, List.mem_singleton, or_and_right, exists_or,
    exists_eq_left]

/-- Whose cookie file has the name of one that cannot be used, cannot use its
    own. -/
theorem isSpoiled_of_spoiledNames {s : Server}
    (h : spoiledNames t work d servers (cookiesName s)) :
    CookieFile.isSpoiled t work (d.cookiesPath s) = true := by
  rcases h with ⟨s', -, hspoiled, hname⟩
  rw [cookiesPath_eq, hname, ← cookiesPath_eq]
  exact hspoiled

end StateDirectory

open StateDirectory

section Connecting

variable {t : FileTree} {work : Place} {d : StateDirectory} {m : Machine}

/-- No inventory is missing. -/
theorem Machine.Left.read_inventoryPath {names : OsText → Prop} (h : Left t work d.path names m)
    (hnames : ∀ name, names name → ∃ s, name = cookiesName s) (s : Server) :
    m.files.read work (d.inventoryPath s) = t.read work (d.inventoryPath s) := by
  refine h.files.read_eq (fun name hname => ?_) (fun place hname => ?_) (isName_inventoryName s)
  · rcases hnames name hname with ⟨s', rfl⟩
    exact isName_cookiesName s'
  · rcases hnames _ hname with ⟨s', hs'⟩
    exact absurd hs'.symm (cookiesName_ne_inventoryName s' s)

variable {done : List Server} (h : Left t work d.path (spoiledNames t work d done) m)

include h

/-- The cookies of a server are those of the beginning, and its file is removed
    if it could not be used then. -/
theorem Broker.run_connect (server : Server) :
    ((Broker.connect d server).run m).1 = Broker.opened t work d server ∧
      Left t work d.path (spoiledNames t work d (done ++ [server]))
        ((Broker.connect d server).run m).2 := by
  have hnames : ∀ name, spoiledNames t work d done name → Path.IsName name.bytes :=
    fun _ => isName_of_spoiledNames
  -- What is loaded is what is left, and that is to be compared with the beginning.
  rcases CookieFile.run_load (d.cookiesPath server) m with ⟨hresult, hfiles⟩
  have hwork := (CookieFile.onlyRemoves_load (d.cookiesPath server) m).workDirectory
  rw [h.workDirectory] at hresult hfiles hwork
  unfold Broker.connect
  rw [Action.run_bind, Action.run_pure, hresult]
  dsimp only
  by_cases hgone : spoiledNames t work d done (cookiesName server) ∧
      ∃ place, t.Removable work (d.cookiesPath server) place
  -- The file went away with that of another server of this name.
  · rcases hgone with ⟨hmem, place, hremovable⟩
    have hspoiled := isSpoiled_of_spoiledNames hmem
    have hread := h.files.read_of_removable hnames hmem hremovable
    rw [← cookiesPath_eq] at hread
    rw [CookieFile.isSpoiled_of_noEntry hread, if_neg Bool.false_ne_true] at hfiles
    refine ⟨?_, (h.of_files hfiles (hwork.trans h.workDirectory.symm)).congr fun name => ?_⟩
    · rw [CookieFile.stored_of_noEntry hread, Broker.opened,
        CookieFile.stored_of_isSpoiled hspoiled]
    · rw [spoiledNames_append]
      refine or_iff_left_of_imp fun ⟨_, hname⟩ => ?_
      rw [hname]
      exact hmem
  -- Otherwise the file is what it was, and it is removed now if it cannot be used.
  · have hkept : ∀ place, spoiledNames t work d done (cookiesName server) →
        ¬t.Removable work (Path.join d.path (cookiesName server)) place :=
      fun place hmem hremovable => hgone ⟨hmem, place, hremovable⟩
    have hread := h.files.read_eq hnames hkept (isName_cookiesName server)
    rw [← cookiesPath_eq] at hread
    rw [CookieFile.isSpoiled_congr hread] at hfiles
    refine ⟨?_, hwork, ?_⟩
    · rw [CookieFile.stored_congr hread, Broker.opened]
    · rw [hfiles]
      split
      · next hspoiled =>
        refine (h.files.without hnames (isName_cookiesName server)).congr
          (FileTree.swept_congr fun name => ?_)
        rw [spoiledNames_append, and_iff_right hspoiled]
      · next hspoiled =>
        refine h.files.congr (FileTree.swept_congr fun name => ?_)
        rw [spoiledNames_append]
        exact or_iff_left_of_imp fun ⟨htrue, _⟩ => absurd htrue hspoiled

end Connecting

/-! ## All servers -/

namespace Inventory

theorem run_read (d : StateDirectory) (server : Server) (broker : Nat) (m : Machine) :
    ((read d server broker).run m).2 = m ∧
      (match ((read d server broker).run m).1 with
        | .ok targets => targets
        | .error _ => []) = recorded m.files m.workDirectory d server broker := by
  unfold read recorded
  rw [Action.run_bind, Action.run_readFile]
  dsimp only
  cases m.files.read m.workDirectory (d.inventoryPath server) with
  | error e =>
    dsimp only
    split <;> exact ⟨rfl, rfl⟩
  | ok content =>
    dsimp only
    cases Json.parse content <;> exact ⟨rfl, rfl⟩

end Inventory

namespace Session

variable {t : FileTree} {work : Place} {d : StateDirectory} {m : Machine}

theorem run_targetsOf (d : StateDirectory) (server : Server) (broker : Nat) (m : Machine) :
    ((targetsOf (Inventory.read d) server broker).run m).1 =
        Inventory.recorded m.files m.workDirectory d server broker ∧
      ((targetsOf (Inventory.read d) server broker).run m).2.files = m.files ∧
      ((targetsOf (Inventory.read d) server broker).run m).2.workDirectory = m.workDirectory := by
  rcases Inventory.run_read d server broker m with ⟨hmachine, hresult⟩
  rw [← hresult]
  unfold targetsOf
  rw [Action.run_bind, hmachine]
  cases ((Inventory.read d server broker).run m).1 <;> exact ⟨rfl, rfl, rfl⟩

/-- All servers are found as the files of the beginning say. -/
theorem run_connectFrom {done : List Server}
    (h : Left t work d.path (spoiledNames t work d done) m) (broker : Nat) (servers : List Server) :
    ((connectFrom d (Inventory.read d) broker servers).run m).1 =
        (servers.map (Broker.opened t work d),
          (servers.zipIdx broker).flatMap fun s => Inventory.recorded t work d s.1 s.2) ∧
      Left t work d.path (spoiledNames t work d (done ++ servers))
        ((connectFrom d (Inventory.read d) broker servers).run m).2 := by
  induction servers generalizing done broker m with
  | nil =>
    rw [List.append_nil]
    exact ⟨rfl, h⟩
  | cons server servers ih =>
    rcases run_targetsOf d server broker m with ⟨htargets, hfiles, hwork⟩
    have hfirst := Broker.run_connect (h.of_files hfiles hwork) server
    have hrest := ih hfirst.2 (broker + 1)
    -- Only cookie files are gone, so the inventory is what it was.
    have hrecorded : Inventory.recorded m.files m.workDirectory d server broker =
        Inventory.recorded t work d server broker := by
      unfold Inventory.recorded
      rw [h.workDirectory, h.read_inventoryPath (fun _ ⟨s, _, _, hname⟩ => ⟨s, hname⟩)]
    unfold connectFrom
    rw [Action.run_bind, Action.run_bind, Action.run_bind, Action.run_pure, hfirst.1, htargets,
      hrecorded, List.append_cons]
    -- The result of the rest is named, since it is taken apart as a pair.
    rcases hrun : (connectFrom d (Inventory.read d) (broker + 1) servers).run
      ((Broker.connect d server).run ((targetsOf (Inventory.read d) server broker).run m).2).2 with
      ⟨found, last⟩
    rw [hrun] at hrest
    obtain rfl : found = _ := hrest.1
    exact ⟨rfl, hrest.2⟩

/-- A session begins as the files say. -/
theorem run_start (c : Config) (m : Machine) :
    ((start c).run m).1 = opened c m.files m.workDirectory ∧
      Left m.files m.workDirectory c.stateDirectory.path
        (spoiledNames m.files m.workDirectory c.stateDirectory c.servers) ((start c).run m).2 := by
  -- At first nothing is gone.
  have hbegin : Left m.files m.workDirectory c.stateDirectory.path
      (spoiledNames m.files m.workDirectory c.stateDirectory []) m :=
    (Left.refl m _).congr fun name => ⟨fun ⟨_, hs, _⟩ => (by cases hs), False.elim⟩
  have hconnect := run_connectFrom hbegin 0 c.servers
  unfold start startWith
  rw [Action.run_bind]
  rcases hrun : (connectFrom c.stateDirectory (Inventory.read c.stateDirectory) 0 c.servers).run m
    with ⟨found, last⟩
  rw [hrun] at hconnect
  obtain rfl : found = _ := hconnect.1
  exact ⟨rfl, hconnect.2.of_files rfl rfl⟩

theorem getElem?_brokers_start (c : Config) (m : Machine) (i : Nat) :
    ((start c).run m).1.brokers[i]? =
      c.servers[i]?.map (Broker.opened m.files m.workDirectory c.stateDirectory) := by
  rw [(run_start c m).1]
  exact List.getElem?_map

theorem targets_start (c : Config) (m : Machine) :
    ((start c).run m).1.targets = c.servers.zipIdx.flatMap fun s =>
      Inventory.recorded m.files m.workDirectory c.stateDirectory s.1 s.2 := by
  rw [(run_start c m).1, opened]

end Session

end BrokerClient
