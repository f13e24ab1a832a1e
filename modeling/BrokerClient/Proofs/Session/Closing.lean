import BrokerClient.Proofs.Session.Forgetting

/-!
# Closing a Session

When a session is closed, the cookies of all brokers that have changed are stored. Since
these have none, that means to remove their files, one after the other. A removal may
fail, for there may be a directory by now where the file was. The others are tried all
the same: the first error is the result, and each one after it is reported.

Brokers may share a file, and then a removal finds less than what was there when closing
began. What fails does not depend on it. A file that is gone is as good as removed, and
only files go away, so whatever was in the way of a removal still is
(`CookieFile.failure?_of_loses`). The errors are therefore those of the files as they were
in the beginning (`Session.run_flushAll`).

## Main definitions

* `CookieFile.failure?`: Why a file cannot be removed.
* `Broker.failure?`: Why the file of a broker cannot be removed.
* `Machine.Warns`: The warnings between two machines.
* `Session.notPersisted`: The report of an error behind the first one.

## Theorems

* `CookieFile.failure?_of_loses`: What fails does not depend on files that went away.
* `Broker.run_flush`: What becomes of one broker.
* `Session.run_flushAll`: What becomes of several brokers.
* `Session.stat?_close`, `Session.kept_close`: What becomes of the files.
* `Session.close_tries_all`: Closing tries all brokers that have changed.
-/

namespace BrokerClient

open Machine (Left)
open StateDirectory

/-! ## Warnings -/

/-- Between two machines there were some warnings, and perhaps events that are none. -/
def Machine.Warns (m m' : Machine) (warnings : List Log.Event) : Prop :=
  ∃ events, m'.events = m.events ++ events ∧ events.filter (·.level = .warn) = warnings

namespace Machine.Warns

variable {m m' m'' : Machine} {warnings warnings' : List Log.Event}

theorem of_eq (h : m'.events = m.events) : m.Warns m' [] :=
  ⟨[], by rw [h, List.append_nil], rfl⟩

theorem trans (h : m.Warns m' warnings) (h' : m'.Warns m'' warnings') :
    m.Warns m'' (warnings ++ warnings') := by
  rcases h with ⟨events, hevents, rfl⟩
  rcases h' with ⟨events', hevents', rfl⟩
  exact ⟨events ++ events', by rw [hevents', hevents, List.append_assoc], List.filter_append ..⟩

theorem of_warning {event : Log.Event} (h : m'.events = m.events ++ [event])
    (hwarn : event.level = .warn) : m.Warns m' [event] :=
  ⟨[event], h, List.filter_cons_of_pos (decide_eq_true hwarn)⟩

theorem of_other {event : Log.Event} (h : m'.events = m.events ++ [event])
    (hwarn : event.level ≠ .warn) : m.Warns m' [] :=
  ⟨[event], h, List.filter_cons_of_neg (by simpa using hwarn)⟩

end Machine.Warns

/-! ## One file -/

namespace CookieFile

/-- Why a file cannot be removed. That there is none is no reason. -/
def failure? (t : FileTree) (work : Place) (p : Path) : Option IoError :=
  match t.remove work p with
  | .ok _ => none
  | .error e => if e.isNotFound then none else some e

variable {t t' : FileTree} {work : Place} {base p : Path} {name : OsText} {m : Machine}

/-- Removing a file gives the reason why it cannot be done, and warns of nothing. -/
theorem run_remove (p : Path) (m : Machine) :
    ((remove p).run m).1 =
        (match failure? m.files m.workDirectory p with
          | none => .ok ()
          | some e => .error e) ∧
      m.Warns ((remove p).run m).2 [] := by
  unfold remove failure?
  rw [Action.run_bind]
  cases hremove : m.files.remove m.workDirectory p with
  | ok files =>
    have hrun : (Action.removeFile p).run m = (.ok (), { m with files }) :=
      Action.run_changeFiles_ok hremove
    rw [hrun]
    -- That a file was removed is logged, but not as a warning.
    exact ⟨rfl, Machine.Warns.of_other rfl nofun⟩
  | error e =>
    have hrun : (Action.removeFile p).run m = (.error e, m) :=
      Action.run_changeFiles_error hremove
    rw [hrun]
    dsimp only
    cases e.isNotFound <;> exact ⟨rfl, Machine.Warns.of_eq rfl⟩

/-- In a directory that is there, only another directory cannot be removed. -/
theorem failure?_join (hname : Path.IsName name.bytes) :
    failure? t work (Path.join base name) =
      match FileTree.checkPath (Path.join base name) with
      | .error e => if e.isNotFound then none else some e
      | .ok () =>
        match t.follow (FileTree.start work base) (Path.front base) with
        | .error e => if (IoError.system e).isNotFound then none else some (.system e)
        | .ok directory =>
          if !t.isDirectoryAt directory then some (.system .notDirectory)
          else if FileTree.nameLimit < name.bytes.length then some (.system .nameTooLong)
          else if t.isDirectoryAt (directory ++ [name]) then some (.system .isDirectory)
          else none := by
  unfold failure?
  rw [FileTree.remove_join t work base hname]
  cases FileTree.checkPath (Path.join base name) with
  | error e => rfl
  | ok u =>
    cases t.follow (FileTree.start work base) (Path.front base) with
    | error e => rfl
    | ok directory =>
      simp only [mapError_ok, bind, Except.bind]
      cases t.isDirectoryAt directory with
      | false => rfl
      | true =>
        by_cases hlong : FileTree.nameLimit < name.bytes.length
        · simp only [if_pos hlong]
          rfl
        · simp only [if_neg hlong, Bool.not_true, Bool.false_eq_true, if_false]
          unfold FileTree.isDirectoryAt
          rcases t.node? (directory ++ [name]) with _ | _ | _ <;> rfl

/-- What fails does not depend on files that went away. -/
theorem failure?_of_loses {names : OsText → Prop} (h : t.Loses t' (t.swept work base names))
    (hnames : ∀ name, names name → Path.IsName name.bytes) (hname : Path.IsName name.bytes) :
    failure? t' work (Path.join base name) = failure? t work (Path.join base name) := by
  rw [failure?_join hname, failure?_join hname, h.follow_front_eq hnames]
  simp only [h.isDirectoryAt_eq]

end CookieFile

/-! ## One broker -/

namespace Broker

/-- Why the file of a broker without cookies cannot be removed. -/
def failure? (t : FileTree) (work : Place) (b : Broker) : Option SessionError :=
  (CookieFile.failure? t work b.cookiesPath).map (.remove b.cookiesPath)

/-- A broker without cookies is stored by removing its file. -/
theorem run_flush {b : Broker} (h : b.hasCookies = false) (directory : StateDirectory)
    (m : Machine) :
    ((b.flush directory).run m).1 =
        (match b.failure? m.files m.workDirectory with
          | none => .ok ()
          | some e => .error e) ∧
      m.Warns ((b.flush directory).run m).2 [] := by
  rcases CookieFile.run_remove b.cookiesPath m with ⟨hresult, hwarns⟩
  rw [flush_of_not_hasCookies h, Action.run_bind, Action.run_pure]
  dsimp only
  rw [hresult]
  refine ⟨?_, hwarns⟩
  unfold failure?
  cases CookieFile.failure? m.files m.workDirectory b.cookiesPath <;> rfl

/-- What fails does not depend on the files of other brokers. -/
theorem failure?_of_left {t : FileTree} {work : Place} {d : StateDirectory}
    {names : OsText → Prop} {m : Machine} (h : Left t work d.path names m)
    (hnames : ∀ name, names name → Path.IsName name.bytes) {b : Broker}
    (hpath : b.cookiesPath = d.cookiesPath b.server) :
    b.failure? m.files m.workDirectory = b.failure? t work := by
  unfold failure?
  rw [hpath, cookiesPath_eq, h.workDirectory,
    CookieFile.failure?_of_loses h.files hnames (isName_cookiesName b.server)]

end Broker

/-! ## All brokers -/

namespace Session

/-- The report of an error behind the first one. -/
def notPersisted (e : SessionError) : Log.Event :=
  ⟨.warn, logTarget, "failed to persist cookies", [], some e.message⟩

section Flushing

variable {t : FileTree} {work : Place} {d : StateDirectory} {names : OsText → Prop} {m : Machine}

/-- Storing several brokers without cookies: the first error is the result, unless there is
    one already, and the others are reported. -/
theorem run_flushAll (h : Left t work d.path names m)
    (hnames : ∀ name, names name → Path.IsName name.bytes) {brokers : List Broker}
    (hcookies : ∀ b ∈ brokers, b.hasCookies = false)
    (hpath : ∀ b ∈ brokers, b.cookiesPath = d.cookiesPath b.server) (directory : StateDirectory)
    (first : Option SessionError) :
    ((flushAll directory first brokers).run m).1 =
        first.or (brokers.filterMap (Broker.failure? t work)).head? ∧
      m.Warns ((flushAll directory first brokers).run m).2
        ((first.toList ++ brokers.filterMap (Broker.failure? t work)).tail.map notPersisted) := by
  induction brokers generalizing names first m with
  | nil =>
    refine ⟨?_, ?_⟩
    · exact (Option.or_none (o := first)).symm
    · cases first <;> exact Machine.Warns.of_eq rfl
  | cons b brokers ih =>
    rcases List.forall_mem_cons.mp hcookies with ⟨hb, hcookies⟩
    rcases List.forall_mem_cons.mp hpath with ⟨hbpath, hpath⟩
    rcases Broker.run_flush hb directory m with ⟨hresult, hwarns⟩
    rw [Broker.failure?_of_left h hnames hbpath] at hresult
    -- The files are now those of the beginning without one more.
    have hfirst := left_flush h hnames hb hbpath directory
    have hmore : ∀ name, names name ∨ name = cookiesName b.server → Path.IsName name.bytes := by
      rintro name (hname | rfl)
      · exact hnames name hname
      · exact isName_cookiesName b.server
    unfold flushAll
    rw [Action.run_bind, hresult]
    cases hfailure : b.failure? t work with
    | none =>
      rw [List.filterMap_cons_none hfailure]
      rcases ih hfirst hmore hcookies hpath first with ⟨hrest, hlater⟩
      exact ⟨hrest, hwarns.trans hlater⟩
    | some e =>
      rw [List.filterMap_cons_some hfailure]
      cases first with
      | none =>
        rcases ih hfirst hmore hcookies hpath (some e) with ⟨hrest, hlater⟩
        exact ⟨hrest, hwarns.trans hlater⟩
      | some e' =>
        have hlogged : Left t work d.path (fun name => names name ∨ name = cookiesName b.server)
            ((Action.log .warn logTarget "failed to persist cookies" [] (some e.message)).run
              ((b.flush directory).run m).2).2 := hfirst.of_files rfl rfl
        rcases ih hlogged hmore hcookies hpath (some e') with ⟨hrest, hlater⟩
        have hreport : ((b.flush directory).run m).2.Warns
            ((Action.log .warn logTarget "failed to persist cookies" [] (some e.message)).run
              ((b.flush directory).run m).2).2 [notPersisted e] :=
          Machine.Warns.of_warning rfl rfl
        exact ⟨hrest, (hwarns.trans hreport).trans hlater⟩

end Flushing

theorem isName_of_exists {brokers : List Broker} (name : OsText)
    (h : ∃ b ∈ brokers, name = cookiesName b.server) : Path.IsName name.bytes := by
  rcases h with ⟨b, -, rfl⟩
  exact isName_cookiesName b.server

section Closing

variable {s : Session} {d : StateDirectory} (hsound : s.IsSound)
  (hpath : ∀ b ∈ s.brokers, b.cookiesPath = d.cookiesPath b.server) (m : Machine)

include hsound hpath

/-- The first error is the result, and the others are reported. -/
theorem run_close :
    (s.close.run m).1 =
        ((s.brokers.filter Broker.changed).filterMap
          (Broker.failure? m.files m.workDirectory)).head?.elim (.ok ()) .error ∧
      m.Warns (s.close.run m).2
        (((s.brokers.filter Broker.changed).filterMap
          (Broker.failure? m.files m.workDirectory)).tail.map notPersisted) := by
  have hflush := run_flushAll (Left.refl m d.path) (fun _ hfalse => hfalse.elim)
    (fun b hb => hsound b (List.mem_filter.mp hb).1 (List.mem_filter.mp hb).2)
    (fun b hb => hpath b (List.mem_filter.mp hb).1) s.directory none
  rw [Option.none_or, Option.toList_none, List.nil_append] at hflush
  unfold close
  rw [Action.run_bind, hflush.1]
  refine ⟨?_, ?_⟩
  · cases ((s.brokers.filter Broker.changed).filterMap
      (Broker.failure? m.files m.workDirectory)).head? <;> rfl
  · cases ((s.brokers.filter Broker.changed).filterMap
      (Broker.failure? m.files m.workDirectory)).head? <;> exact hflush.2

/-- Only files of brokers that have changed go away. -/
theorem loses_close :
    m.files.Loses (s.close.run m).2.files (m.files.swept m.workDirectory d.path fun name =>
      ∃ b ∈ s.brokers.filter Broker.changed, name = cookiesName b.server) :=
  ((left_close (Left.refl m d.path) (fun _ hfalse => hfalse.elim) hsound hpath).congr
    fun _ => (or_iff_right id).symm).files

theorem loses_close_removable :
    m.files.Loses (s.close.run m).2.files fun place => ∃ b ∈ s.brokers.filter Broker.changed,
      m.files.Removable m.workDirectory b.cookiesPath place := by
  have hjoin : ∀ b ∈ s.brokers.filter Broker.changed,
      b.cookiesPath = Path.join d.path (cookiesName b.server) :=
    fun b hb => hpath b (List.mem_filter.mp hb).1
  refine (loses_close hsound hpath m).congr fun place => ?_
  constructor
  · rintro ⟨b, hb, hremovable⟩
    rw [hjoin b hb] at hremovable
    exact ⟨cookiesName b.server, ⟨b, hb, rfl⟩, hremovable⟩
  · rintro ⟨name, ⟨b, hb, rfl⟩, hremovable⟩
    rw [← hjoin b hb] at hremovable
    exact ⟨b, hb, hremovable⟩

variable {b : Broker}

/-- Where there was nothing, or a file that can be removed, there is nothing. -/
theorem stat?_close (hb : b ∈ s.brokers.filter Broker.changed)
    (hgone : m.files.stat? m.workDirectory b.cookiesPath = none ∨
      ∃ files, m.files.remove m.workDirectory b.cookiesPath = .ok files) :
    (s.close.run m).2.files.stat? m.workDirectory b.cookiesPath = none := by
  have hloses := loses_close hsound hpath m
  rcases hgone with habsent | ⟨files, hremove⟩
  -- What is not there does not come back.
  · exact FileTree.stat?_eq_none_of_isWithin hloses.isWithin habsent
  · rcases FileTree.exists_removable hremove with ⟨place, hremovable, -⟩
    rw [hpath b (List.mem_filter.mp hb).1] at hremovable ⊢
    exact hloses.stat?_of_removable isName_of_exists ⟨b, hb, rfl⟩ hremovable

/-- What no broker that has changed has for its file is left alone. -/
theorem kept_close (hb : b ∈ s.brokers)
    (hothers : ∀ b' ∈ s.brokers.filter Broker.changed, b'.cookiesPath ≠ b.cookiesPath) :
    (s.close.run m).2.files.stat? m.workDirectory b.cookiesPath =
        m.files.stat? m.workDirectory b.cookiesPath ∧
      (s.close.run m).2.files.read m.workDirectory b.cookiesPath =
        m.files.read m.workDirectory b.cookiesPath := by
  have hloses := loses_close hsound hpath m
  have hname := isName_cookiesName b.server
  -- The name of the file is none of those that go away.
  have hkept : ∀ place, (∃ b' ∈ s.brokers.filter Broker.changed,
        cookiesName b.server = cookiesName b'.server) →
      ¬m.files.Removable m.workDirectory (Path.join d.path (cookiesName b.server)) place := by
    rintro place ⟨b', hb', hsame⟩
    refine absurd ?_ (hothers b' hb')
    rw [hpath b' (List.mem_filter.mp hb').1, hpath b hb, cookiesPath_eq, cookiesPath_eq, hsame]
  rw [hpath b hb, cookiesPath_eq]
  exact ⟨hloses.stat?_eq isName_of_exists hkept hname,
    hloses.read_eq isName_of_exists hkept hname⟩

end Closing

/-- Closing tries all brokers that have changed, whatever has become of their files since
    the session began. Where nothing is under the path of a cookie file, or a file that
    can be removed, there is nothing in the end. All other files are left alone. If some
    removals fail, then the error of the first one is the result, and each error behind it
    is reported in a warning of its own. -/
theorem close_tries_all (c : Config) (m₀ : Machine) (calls : List (List String)) (m : Machine) :
    let s := ((visit c calls).run m₀).1
    let changed := s.brokers.filter Broker.changed
    let failures := changed.filterMap (Broker.failure? m.files m.workDirectory)
    let result := (s.close.run m).1
    let closed := (s.close.run m).2
    (∀ b ∈ changed, (m.files.stat? m.workDirectory b.cookiesPath = none ∨
        ∃ files, m.files.remove m.workDirectory b.cookiesPath = .ok files) →
      closed.files.stat? m.workDirectory b.cookiesPath = none) ∧
    (∀ b ∈ s.brokers, b.changed = false → (∀ b' ∈ changed, b'.cookiesPath ≠ b.cookiesPath) →
      closed.files.stat? m.workDirectory b.cookiesPath =
          m.files.stat? m.workDirectory b.cookiesPath ∧
        closed.files.read m.workDirectory b.cookiesPath =
          m.files.read m.workDirectory b.cookiesPath) ∧
    m.files.Loses closed.files (fun place =>
      ∃ b ∈ changed, m.files.Removable m.workDirectory b.cookiesPath place) ∧
    (result = .ok () ↔ failures = []) ∧
    (∀ e, result = .error e ↔ failures.head? = some e) ∧
    m.Warns closed (failures.tail.map notPersisted) := by
  intro s changed failures result closed
  have hsound : s.IsSound := isSound_visit c m₀ calls
  have hpath : ∀ b ∈ s.brokers, b.cookiesPath = c.stateDirectory.cookiesPath b.server :=
    fun b hb => cookiesPath_of_mem_visit c m₀ calls hb
  have hresult : result = failures.head?.elim (.ok ()) .error := (run_close hsound hpath m).1
  have hwarns : m.Warns closed (failures.tail.map notPersisted) := (run_close hsound hpath m).2
  refine ⟨fun b hb => stat?_close hsound hpath m hb,
    fun b hb _ => kept_close hsound hpath m hb, loses_close_removable hsound hpath m,
    ?_, fun e => ?_, hwarns⟩
  · rw [hresult, ← List.head?_eq_none_iff]
    cases failures.head? with
    | none => exact ⟨fun _ => rfl, fun _ => rfl⟩
    | some first => exact ⟨fun h => (by cases h), fun h => (by cases h)⟩
  · rw [hresult]
    cases failures.head? with
    | none => exact ⟨fun h => (by cases h), fun h => (by cases h)⟩
    | some first => exact ⟨fun h => congrArg some (Except.error.inj h),
        fun h => congrArg Except.error (Option.some.inj h)⟩

end Session

end BrokerClient
