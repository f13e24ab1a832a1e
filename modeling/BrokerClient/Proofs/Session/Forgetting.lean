import BrokerClient.Proofs.Session.Opening

/-!
# What a Session Forgets

From its beginning to its end a session takes nothing away but cookie files, and it
adds nothing. Two kinds of cookie files go away: those that cannot be used, when the
session begins, and those of brokers whose cookies were dropped, when it is closed.
Between the two, operators may log out as often as they like, with names that lead
somewhere or nowhere.

Which brokers a call of logging out selects depends on their servers only. So all
calls select among the brokers of the beginning, and the cookies that are there to
drop are those of the files of the beginning. The names of the files that are gone
are collected step by step, first by `Session.run_start`, then by
`Session.left_flushAll`, and a name that comes up twice does no harm.

## Main definitions

* `Session.logoutEach`: Logging out several times.
* `Session.IsSelected`: A broker is selected by one of several calls.
* `Session.IsForgotten`: The places of the files that a session takes away.

## Theorems

* `Session.getElem?_forgetAt`: What dropping cookies makes of each broker.
* `Session.run_logoutEach`: What logging out several times makes of each broker.
* `Session.isSound_logoutEach`: A broker that has changed never has cookies.
* `Session.left_flushAll`: Closing takes away the files of the brokers that have changed.
* `Session.closed_only_forgets`: A session takes away these files and leaves all else alone.
-/

namespace BrokerClient

open Machine (Left)
open StateDirectory

/-! ## What logging leaves alone -/

/-- Nothing happens to the files. -/
structure Machine.SameFiles (m m' : Machine) : Prop where
  files : m'.files = m.files
  workDirectory : m'.workDirectory = m.workDirectory

theorem Machine.SameFiles.frame : Action.Frame Machine.SameFiles where
  refl := fun _ => ⟨rfl, rfl⟩
  trans := fun hab hbc => ⟨hbc.files.trans hab.files, hbc.workDirectory.trans hab.workDirectory⟩

namespace Broker

theorem server_forget (b : Broker) : b.forget.server = b.server := by
  unfold forget
  split <;> rfl

theorem cookiesPath_forget (b : Broker) : b.forget.cookiesPath = b.cookiesPath := by
  unfold forget
  split <;> rfl

theorem forget_forget (b : Broker) : b.forget.forget = b.forget := by
  by_cases h : b.hasCookies = true
  · unfold forget
    rw [if_pos h]
    exact if_neg Bool.false_ne_true
  · have hforget : b.forget = b := if_neg h
    rw [hforget, hforget]

/-- Without cookies nothing is written. -/
theorem flush_of_not_hasCookies {b : Broker} (h : b.hasCookies = false)
    (directory : StateDirectory) :
    b.flush directory = do
      return (← CookieFile.remove b.cookiesPath).mapError (.remove b.cookiesPath) := by
  unfold flush
  rw [h]
  rfl

end Broker

namespace Session

/-! ## Logging out -/

/-- Drops the cookies of the brokers that names lead to, for several lists of
    names. Where a name leads nowhere, the session stays as it was. -/
def logoutEach (s : Session) : List (List String) → Action Session
  | [] => return s
  | names :: calls => do
    match ← s.logout names with
    | .error _ => s.logoutEach calls
    | .ok (rest, _) => rest.logoutEach calls

/-- A session that has begun and has been logged out of several times. -/
def visit (c : Config) (calls : List (List String)) : Action Session := do
  (← start c).logoutEach calls

/-- A broker, given by its place, is selected by one of several lists of names,
    all of whose names lead somewhere. -/
def IsSelected (s : Session) (calls : List (List String)) (place : Nat) : Prop :=
  ∃ names ∈ calls, ∃ places, s.selected names = .ok places ∧ place ∈ places

/-- The brokers at the selected places have lost their cookies, and the others
    are what they were. -/
theorem getElem?_forgetAt (s : Session) (places : List Nat) (i : Nat) :
    (s.forgetAt places).1.brokers[i]? =
      s.brokers[i]?.map fun b => if i ∈ places then b.forget else b := by
  induction places generalizing s with
  | nil => simp [forgetAt]
  | cons place places ih =>
    unfold forgetAt
    cases hb : s.brokers[place]? with
    | none =>
      dsimp only
      rw [ih]
      by_cases hi : i = place
      · rw [hi, hb]
        rfl
      · simp [hi]
    | some b =>
      dsimp only
      rw [ih]
      by_cases hi : i = place
      -- A broker that is selected twice forgets once.
      · have hlt : place < s.brokers.length := (List.getElem?_eq_some_iff.mp hb).1
        rw [hi, List.getElem?_set_self hlt, hb]
        simp [b.forget_forget]
      · rw [List.getElem?_set_ne (Ne.symm hi)]
        simp [hi]

theorem directory_forgetAt (s : Session) (places : List Nat) :
    (s.forgetAt places).1.directory = s.directory := by
  induction places generalizing s with
  | nil => rfl
  | cons place places ih =>
    unfold forgetAt
    split
    · exact ih s
    · exact ih _

/-- What is selected depends on the servers only. -/
theorem selected_congr {s s' : Session}
    (h : s'.brokers.map Broker.server = s.brokers.map Broker.server) (names : List String) :
    s'.selected names = s.selected names := by
  -- Whether a broker answers to a name is a matter of its server.
  have hplace : ∀ (s : Session) name, s.brokers.findIdx? (fun b => b.answersTo name) =
      (s.brokers.map Broker.server).findIdx? fun server =>
        Broker.answersTo ⟨server, [], .empty, false⟩ name := by
    intro s name
    rw [List.findIdx?_map]
    rfl
  have hlength : s'.brokers.length = s.brokers.length := by
    simpa using congrArg List.length h
  have hplaces : s'.placeOf = s.placeOf := by
    funext name
    unfold placeOf
    rw [hplace, hplace, h]
  unfold selected
  rw [hlength, hplaces]

theorem servers_forgetAt (s : Session) (places : List Nat) :
    (s.forgetAt places).1.brokers.map Broker.server = s.brokers.map Broker.server := by
  refine List.ext_getElem? fun i => ?_
  rw [List.getElem?_map, List.getElem?_map, getElem?_forgetAt, Option.map_map]
  congr 1
  funext b
  change Broker.server (if i ∈ places then b.forget else b) = b.server
  split
  · exact b.server_forget
  · rfl

theorem isSelected_congr {s s' : Session}
    (h : s'.brokers.map Broker.server = s.brokers.map Broker.server) (calls : List (List String))
    (place : Nat) : s'.IsSelected calls place ↔ s.IsSelected calls place := by
  unfold IsSelected
  simp only [selected_congr h]

/-- A call of logging out fails and leaves the session alone, or it drops the
    cookies of the brokers that it selects. -/
theorem run_logout_cases (s : Session) (names : List String) (m : Machine) :
    (∃ e, s.selected names = .error e ∧ (s.logout names).run m = (.error e, m)) ∨
    (∃ places cleared m', s.selected names = .ok places ∧ m.SameFiles m' ∧
      (s.logout names).run m = (.ok ((s.forgetAt places).1, cleared), m')) := by
  unfold logout dropCookies
  cases s.selected names with
  | error e => exact .inl ⟨e, rfl, rfl⟩
  | ok places =>
    refine .inr ⟨places, _, _, rfl, ?_, rfl⟩
    -- Events are logged, one for each server that had cookies.
    refine Action.Preserves.forIn Machine.SameFiles.frame (fun server _ => ?_) m
    exact .bind Machine.SameFiles.frame (fun _ => ⟨rfl, rfl⟩) fun _ =>
      .pure Machine.SameFiles.frame _

/-- A broker that has changed has no cookies, however often one has logged
    out. -/
theorem isSound_logoutEach {s : Session} (h : s.IsSound) (calls : List (List String))
    (m : Machine) : ((s.logoutEach calls).run m).1.IsSound := by
  induction calls generalizing s m with
  | nil => exact h
  | cons names calls ih =>
    unfold logoutEach
    rw [Action.run_bind]
    rcases run_logout_cases s names m with ⟨e, -, hrun⟩ | ⟨places, cleared, m', -, -, hrun⟩
    · rw [hrun]
      exact ih h m
    · rw [hrun]
      exact ih (isSound_forgetAt h places) m'

/-- The brokers that were ever selected have lost their cookies, and the others
    are what they were. Nothing happens to the files. -/
theorem run_logoutEach (s : Session) (calls : List (List String)) (m : Machine) :
    ((s.logoutEach calls).run m).1.directory = s.directory ∧
      (∀ i, s.IsSelected calls i →
        ((s.logoutEach calls).run m).1.brokers[i]? = s.brokers[i]?.map Broker.forget) ∧
      (∀ i, ¬s.IsSelected calls i →
        ((s.logoutEach calls).run m).1.brokers[i]? = s.brokers[i]?) ∧
      m.SameFiles ((s.logoutEach calls).run m).2 := by
  induction calls generalizing s m with
  | nil =>
    refine ⟨rfl, fun i hselected => ?_, fun i _ => rfl, rfl, rfl⟩
    rcases hselected with ⟨names, hnames, -⟩
    cases hnames
  | cons names calls ih =>
    -- What the first call selects counts, and what the others select of the same servers.
    have hcons : ∀ i, s.IsSelected (names :: calls) i ↔
        (∃ places, s.selected names = .ok places ∧ i ∈ places) ∨ s.IsSelected calls i := by
      intro i
      simp only [IsSelected, List.mem_cons, or_and_right, exists_or, exists_eq_left]
    unfold logoutEach
    rw [Action.run_bind]
    rcases run_logout_cases s names m with ⟨e, hselected, hrun⟩ |
      ⟨places, cleared, m', hselected, hsame, hrun⟩
    · rw [hrun]
      have hiff : ∀ i, s.IsSelected (names :: calls) i ↔ s.IsSelected calls i := by
        intro i
        rw [hcons, hselected]
        exact or_iff_right fun ⟨_, hfalse, _⟩ => by cases hfalse
      simp only [hiff]
      exact ih s m
    · rw [hrun]
      rcases ih (s.forgetAt places).1 m' with ⟨hdirectory, hforgot, hkept, hfiles⟩
      -- The later calls select among the same servers.
      simp only [isSelected_congr (servers_forgetAt s places), getElem?_forgetAt] at hforgot hkept
      have hplaces : ∀ i, (∃ places, s.selected names = .ok places ∧ i ∈ places) ↔ i ∈ places := by
        intro i
        rw [hselected]
        exact ⟨fun ⟨_, heq, hi⟩ => Except.ok.inj heq ▸ hi, fun hi => ⟨places, rfl, hi⟩⟩
      refine ⟨hdirectory.trans (directory_forgetAt s places), fun i hi => ?_, fun i hi => ?_,
        Machine.SameFiles.frame.trans hsame hfiles⟩
      · rw [hcons, hplaces] at hi
        by_cases hlater : s.IsSelected calls i
        · refine (hforgot i hlater).trans ?_
          rw [Option.map_map]
          congr 1
          funext b
          change (if i ∈ places then b.forget else b).forget = b.forget
          split
          · exact b.forget_forget
          · rfl
        · refine (hkept i hlater).trans ?_
          simp only [if_pos (hi.resolve_right hlater)]
      · rw [hcons, hplaces, not_or] at hi
        refine (hkept i hi.2).trans ?_
        simp [if_neg hi.1]

/-! ## Closing -/

section Closing

variable {t : FileTree} {work : Place} {d : StateDirectory} {names : OsText → Prop} {m : Machine}

/-- Storing no cookies takes their file away. -/
theorem left_flush (h : Left t work d.path names m)
    (hnames : ∀ name, names name → Path.IsName name.bytes) {b : Broker}
    (hcookies : b.hasCookies = false) (hpath : b.cookiesPath = d.cookiesPath b.server)
    (directory : StateDirectory) :
    Left t work d.path (fun name => names name ∨ name = cookiesName b.server)
      ((b.flush directory).run m).2 := by
  have hwork := (onlyRemoves_flush directory hcookies m).workDirectory
  refine ⟨hwork.trans h.workDirectory, ?_⟩
  rw [Broker.flush_of_not_hasCookies hcookies, Action.run_bind, Action.run_pure]
  dsimp only
  rw [CookieFile.files_remove, h.workDirectory, hpath]
  exact h.files.without hnames (isName_cookiesName b.server)

/-- Storing several brokers without cookies takes away the files of all of them,
    whether one of them fails or not. -/
theorem left_flushAll (h : Left t work d.path names m)
    (hnames : ∀ name, names name → Path.IsName name.bytes) {brokers : List Broker}
    (hcookies : ∀ b ∈ brokers, b.hasCookies = false)
    (hpath : ∀ b ∈ brokers, b.cookiesPath = d.cookiesPath b.server) (directory : StateDirectory)
    (first : Option SessionError) :
    Left t work d.path (fun name => names name ∨ ∃ b ∈ brokers, name = cookiesName b.server)
      ((flushAll directory first brokers).run m).2 := by
  induction brokers generalizing names first m with
  | nil => exact h.congr fun name => or_iff_left fun ⟨_, hb, _⟩ => by cases hb
  | cons b brokers ih =>
    rcases List.forall_mem_cons.mp hcookies with ⟨hb, hcookies⟩
    rcases List.forall_mem_cons.mp hpath with ⟨hbpath, hpath⟩
    have hfirst := left_flush h hnames hb hbpath directory
    have hmore : ∀ name, names name ∨ name = cookiesName b.server → Path.IsName name.bytes := by
      rintro name (hname | rfl)
      · exact hnames name hname
      · exact isName_cookiesName b.server
    -- The names come in one by one.
    have hall : ∀ name, (names name ∨ ∃ b' ∈ b :: brokers, name = cookiesName b'.server) ↔
        (names name ∨ name = cookiesName b.server) ∨
          ∃ b' ∈ brokers, name = cookiesName b'.server := by
      intro name
      simp only [List.mem_cons, or_and_right, exists_or, exists_eq_left, or_assoc]
    unfold flushAll
    rw [Action.run_bind]
    cases ((b.flush directory).run m).1 with
    | ok u => exact (ih hfirst hmore hcookies hpath _).congr hall
    | error e =>
      cases first with
      | none => exact (ih hfirst hmore hcookies hpath _).congr hall
      | some e' =>
        -- Only the log grows before the next broker.
        have hlogged : Left t work d.path (fun name => names name ∨ name = cookiesName b.server)
            ((Action.log .warn logTarget "failed to persist cookies" [] (some e.message)).run
              ((b.flush directory).run m).2).2 := hfirst.of_files rfl rfl
        exact (ih hlogged hmore hcookies hpath _).congr hall

theorem left_close {s : Session} (h : Left t work d.path names m)
    (hnames : ∀ name, names name → Path.IsName name.bytes) (hsound : s.IsSound)
    (hpath : ∀ b ∈ s.brokers, b.cookiesPath = d.cookiesPath b.server) :
    Left t work d.path
      (fun name => names name ∨ ∃ b ∈ s.brokers.filter Broker.changed, name = cookiesName b.server)
      (s.close.run m).2 := by
  have hflush := left_flushAll h hnames
    (fun b hb => hsound b (List.mem_filter.mp hb).1 (List.mem_filter.mp hb).2)
    (fun b hb => hpath b (List.mem_filter.mp hb).1) s.directory none
  unfold close
  rw [Action.run_bind]
  cases ((flushAll s.directory none (s.brokers.filter Broker.changed)).run m).1 <;> exact hflush

end Closing

/-! ## From the beginning to the end -/

/-- The places of the files that a session takes away: the cookie files of servers
    that cannot be used, and those with cookies of brokers that are selected. -/
def IsForgotten (c : Config) (m : Machine) (calls : List (List String)) (place : Place) : Prop :=
  ∃ i server, c.servers[i]? = some server ∧
    (CookieFile.isSpoiled m.files m.workDirectory (c.stateDirectory.cookiesPath server) = true ∨
      CookieFile.stored m.files m.workDirectory (c.stateDirectory.cookiesPath server) ≠ [] ∧
        ((start c).run m).1.IsSelected calls i) ∧
    m.files.Removable m.workDirectory (c.stateDirectory.cookiesPath server) place

section Reached

variable (c : Config) (m : Machine) (calls : List (List String))

theorem isSound_visit : ((visit c calls).run m).1.IsSound :=
  isSound_logoutEach (isSound_start c m) calls _

/-- The brokers in the end, server by server. -/
theorem mem_visit_iff (b : Broker) :
    b ∈ ((visit c calls).run m).1.brokers ↔
      ∃ i server, c.servers[i]? = some server ∧
        (¬((start c).run m).1.IsSelected calls i ∧
            b = Broker.opened m.files m.workDirectory c.stateDirectory server ∨
          ((start c).run m).1.IsSelected calls i ∧
            b = (Broker.opened m.files m.workDirectory c.stateDirectory server).forget) := by
  rcases run_logoutEach ((start c).run m).1 calls ((start c).run m).2 with ⟨-, hforgot, hkept, -⟩
  unfold visit
  rw [Action.run_bind, List.mem_iff_getElem?]
  refine exists_congr fun i => ?_
  by_cases hselected : ((start c).run m).1.IsSelected calls i
  · rw [hforgot i hselected, getElem?_brokers_start, Option.map_map]
    simp only [hselected, not_true_eq_false, false_and, false_or, true_and,
      Option.map_eq_some_iff, Function.comp_apply, @eq_comm _ b]
  · rw [hkept i hselected, getElem?_brokers_start]
    simp only [hselected, not_false_eq_true, false_and, or_false, true_and,
      Option.map_eq_some_iff, @eq_comm _ b]

/-- The file of a broker is that of its server, to the end. -/
theorem cookiesPath_of_mem_visit {b : Broker} (hb : b ∈ ((visit c calls).run m).1.brokers) :
    b.cookiesPath = c.stateDirectory.cookiesPath b.server := by
  rcases (mem_visit_iff c m calls b).mp hb with ⟨i, server, -, ⟨-, heq⟩ | ⟨-, heq⟩⟩
  · rw [heq, Broker.cookiesPath_opened, Broker.server_opened]
  · rw [heq, Broker.server_forget, Broker.cookiesPath_forget, Broker.cookiesPath_opened,
      Broker.server_opened]

theorem changed_forget_opened (t : FileTree) (work : Place) (d : StateDirectory) (server : Server) :
    (Broker.opened t work d server).forget.changed = true ↔
      CookieFile.stored t work (d.cookiesPath server) ≠ [] := by
  unfold Broker.forget Broker.hasCookies Broker.opened
  cases CookieFile.stored t work (d.cookiesPath server) <;> simp

/-- The brokers that have changed in the end are those of selected servers with
    cookies. -/
theorem exists_changed_iff (name : OsText) :
    (∃ b ∈ ((visit c calls).run m).1.brokers.filter
        Broker.changed, name = cookiesName b.server) ↔
      ∃ i server, c.servers[i]? = some server ∧
        (CookieFile.stored m.files m.workDirectory (c.stateDirectory.cookiesPath server) ≠ [] ∧
          ((start c).run m).1.IsSelected calls i) ∧ name = cookiesName server := by
  simp only [List.mem_filter, mem_visit_iff]
  constructor
  · rintro ⟨b, ⟨⟨i, server, hserver, ⟨-, hb⟩ | ⟨hselected, hb⟩⟩, hchanged⟩, hname⟩
    · rw [hb] at hchanged
      cases hchanged
    · rw [hb, changed_forget_opened] at hchanged
      rw [hb, Broker.server_forget, Broker.server_opened] at hname
      exact ⟨i, server, hserver, ⟨hchanged, hselected⟩, hname⟩
  · rintro ⟨i, server, hserver, ⟨hstored, hselected⟩, hname⟩
    refine ⟨_, ⟨⟨i, server, hserver, .inr ⟨hselected, rfl⟩⟩, ?_⟩, ?_⟩
    · exact (changed_forget_opened _ _ _ _).mpr hstored
    · rw [Broker.server_forget, Broker.server_opened]
      exact hname

/-- The names of all files that a session takes away. -/
def forgottenNames (name : OsText) : Prop :=
  ∃ i server, c.servers[i]? = some server ∧
    (CookieFile.isSpoiled m.files m.workDirectory (c.stateDirectory.cookiesPath server) = true ∨
      CookieFile.stored m.files m.workDirectory (c.stateDirectory.cookiesPath server) ≠ [] ∧
        ((start c).run m).1.IsSelected calls i) ∧
    name = cookiesName server

theorem exists_of_forgottenNames {name : OsText} (h : forgottenNames c m calls name) :
    ∃ s, name = cookiesName s := by
  rcases h with ⟨i, server, -, -, hname⟩
  exact ⟨server, hname⟩

/-- What is left when the session has been closed. -/
theorem left_closed :
    Left m.files m.workDirectory c.stateDirectory.path (forgottenNames c m calls)
      (((visit c calls).run m).1.close.run ((visit c calls).run m).2).2 := by
  rcases run_logoutEach ((start c).run m).1 calls ((start c).run m).2 with ⟨-, -, -, hsame⟩
  -- Logging out is not seen in the files, so the beginning and the end meet here.
  have hreached := (run_start c m).2.of_files hsame.files hsame.workDirectory
  refine (left_close hreached (fun _ => isName_of_spoiledNames)
    (isSound_visit c m calls) fun _ => cookiesPath_of_mem_visit c m calls).congr fun name => ?_
  rw [exists_changed_iff]
  -- A file is gone because it could not be used, or because its broker has changed.
  constructor
  · rintro ⟨i, server, hserver, hspoiled | hdropped, hname⟩
    · exact .inl ⟨server, List.mem_of_getElem? hserver, hspoiled, hname⟩
    · exact .inr ⟨i, server, hserver, hdropped, hname⟩
  · rintro (⟨server, hserver, hspoiled, hname⟩ | ⟨i, server, hserver, hdropped, hname⟩)
    · rcases List.mem_iff_getElem?.mp hserver with ⟨i, hi⟩
      exact ⟨i, server, hi, .inl hspoiled, hname⟩
    · exact ⟨i, server, hserver, .inr hdropped, hname⟩

theorem swept_forgottenNames_iff (place : Place) :
    m.files.swept m.workDirectory c.stateDirectory.path (forgottenNames c m calls) place ↔
      IsForgotten c m calls place := by
  constructor
  · rintro ⟨name, ⟨i, server, hserver, hwhy, rfl⟩, hremovable⟩
    exact ⟨i, server, hserver, hwhy, hremovable⟩
  · rintro ⟨i, server, hserver, hwhy, hremovable⟩
    exact ⟨cookiesName server, ⟨i, server, hserver, hwhy, rfl⟩, hremovable⟩

end Reached

/-- A session never writes, and it takes away nothing but the cookie files that it
    has to. Whatever was selected in between, a broker that has changed has no
    cookies, so closing only removes files, and the files are in the end what they
    were in the beginning without those of `IsForgotten`. -/
theorem closed_only_forgets (c : Config) (m : Machine) (calls : List (List String)) :
    let reached := (visit c calls).run m
    let closed := reached.1.close.run reached.2
    (∀ b ∈ reached.1.brokers, b.changed = true → b.hasCookies = false ∧
      b.flush reached.1.directory = do
        return (← CookieFile.remove b.cookiesPath).mapError (.remove b.cookiesPath)) ∧
    m.files.Loses closed.2.files (IsForgotten c m calls) ∧
    ∀ server, closed.2.files.read m.workDirectory (c.stateDirectory.inventoryPath server) =
      m.files.read m.workDirectory (c.stateDirectory.inventoryPath server) := by
  intro reached closed
  have hsound : reached.1.IsSound := isSound_visit c m calls
  have hleft := left_closed c m calls
  refine ⟨fun b hb hchanged => ?_, ?_, fun server => ?_⟩
  · have hcookies := hsound b hb hchanged
    exact ⟨hcookies, Broker.flush_of_not_hasCookies hcookies _⟩
  · exact hleft.files.congr fun place => (swept_forgottenNames_iff c m calls place).symm
  · exact hleft.read_inventoryPath (fun _ => exists_of_forgottenNames c m calls) server

end Session

end BrokerClient
