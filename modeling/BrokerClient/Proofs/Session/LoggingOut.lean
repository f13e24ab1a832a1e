import BrokerClient.Commands
import BrokerClient.Proofs.Session.Forgetting
import Mathlib.Data.Finset.Card

/-!
# What Logging Out Does

Names are looked up before any cookies are dropped. So one name that no broker answers
to, wherever it stands among the others, keeps everything as it was. Otherwise the names
lead to places of brokers, and a place may come up several times, since a broker answers
to its address and to its short name.

Cookies are dropped place by place. A broker that comes up again has none left, so it is
counted once (`Session.length_forgetAt`), and its mark that it has changed stays. For the
same reason logging out again finds nothing to drop.

## Main definitions

* `Session.answersTo`: Whether a name is a name of one of the brokers.
* `Session.IsFirstOf`: The first broker that answers to a name.
* `Session.Selects`: The places that names stand for.
* `Session.hasCookiesAt`: Whether the broker at a place has cookies.
* `Session.IsWithout`: A session is another one without the cookies of some brokers.

## Theorems

* `Session.exists_selected_eq_error_iff`, `Session.selected_eq_error_iff`: When logging out
  stops, and which name stops it.
* `Session.selects_of_selected`: What is selected otherwise.
* `Session.isWithout_forgetAt`: What dropping cookies does to a session.
* `Session.length_forgetAt`: How many brokers had cookies.
* `Session.forgetAt_of_not_hasCookiesAt`: Where there are no cookies, nothing happens.
* `Commands.run_logout`: What is left of a context after logging out.
* `Session.logout_all_or_nothing`: Logging out does all of what it was asked for, or nothing.
-/

namespace BrokerClient

/-! ## One broker -/

namespace Broker

/-- A broker without cookies is as good as one that has forgotten them. -/
theorem forget_of_not_hasCookies {b : Broker} (h : b.hasCookies = false) : b.forget = b := by
  unfold forget
  rw [h]
  exact if_neg Bool.false_ne_true

theorem hasCookies_eq_false_iff {b : Broker} : b.hasCookies = false ↔ b.cookies = [] := by
  unfold hasCookies
  rw [Bool.not_eq_false', List.isEmpty_iff]

/-- All there is to a broker that has forgotten its cookies. -/
theorem forget_eq (b : Broker) :
    b.forget = { b with cookies := [], changed := b.changed || b.hasCookies } := by
  cases h : b.hasCookies with
  | true =>
    unfold forget
    rw [if_pos h, Bool.or_true]
  | false =>
    rw [forget_of_not_hasCookies h, Bool.or_false, ← hasCookies_eq_false_iff.mp h]

theorem not_hasCookies_forget (b : Broker) : b.forget.hasCookies = false := by
  rw [forget_eq]
  rfl

end Broker

namespace Session

/-! ## Names -/

/-- Whether a name is a name of one of the brokers. -/
def answersTo (s : Session) (name : String) : Bool :=
  s.brokers.any fun b => b.answersTo name

/-- The broker at a place answers to a name, and no broker before it does. -/
structure IsFirstOf (s : Session) (name : String) (place : Nat) : Prop where
  answers : ∃ b, s.brokers[place]? = some b ∧ b.answersTo name = true
  first : ∀ i < place, ∀ b, s.brokers[i]? = some b → b.answersTo name = false

/-- The places that names stand for: those of all brokers if there are no names, and
    otherwise the first broker that answers, name by name. -/
structure Selects (s : Session) (names : List String) (places : List Nat) : Prop where
  all : names = [] → places = List.range s.brokers.length
  named : names ≠ [] → List.Forall₂ s.IsFirstOf names places

variable {s : Session} {name : String} {names : List String} {places : List Nat}

theorem answersTo_eq_false_iff :
    s.answersTo name = false ↔ ∀ b ∈ s.brokers, b.answersTo name = false := by
  unfold answersTo
  rw [List.any_eq_false]
  simp only [Bool.not_eq_true]

theorem isFirstOf_of_placeOf {place : Nat} (h : s.placeOf name = .ok place) :
    s.IsFirstOf name place := by
  unfold placeOf at h
  split at h
  · next found hfind =>
    obtain rfl : found = place := Except.ok.inj h
    rcases List.findIdx?_eq_some_iff_getElem.mp hfind with ⟨hlt, hanswers, hbefore⟩
    refine ⟨⟨s.brokers[found], List.getElem?_eq_getElem hlt, hanswers⟩, fun i hi b hb => ?_⟩
    rcases List.getElem?_eq_some_iff.mp hb with ⟨hi', rfl⟩
    simpa using hbefore i hi
  · cases h

theorem placeOf_of_answersTo (h : s.answersTo name = true) :
    ∃ place, s.placeOf name = .ok place := by
  unfold placeOf
  cases hfind : s.brokers.findIdx? fun b => b.answersTo name with
  | some place => exact ⟨place, rfl⟩
  | none =>
    -- Nobody is found only if nobody answers.
    have hno : s.answersTo name = false :=
      answersTo_eq_false_iff.mpr fun b hb => by simpa using List.findIdx?_eq_none_iff.mp hfind b hb
    rw [hno] at h
    cases h

theorem placeOf_of_not_answersTo (h : s.answersTo name = false) :
    s.placeOf name = .error (.unknownServer name) := by
  have hfind : (s.brokers.findIdx? fun b => b.answersTo name) = none := by
    refine List.findIdx?_eq_none_iff.mpr fun b hb => ?_
    exact answersTo_eq_false_iff.mp h b hb
  unfold placeOf
  rw [hfind]

/-- The first name that nobody answers to stops the lookup. -/
theorem mapM_placeOf_eq_error_iff {e : ResolveError} :
    names.mapM s.placeOf = .error e ↔
      ∃ name, names.find? (fun name => !s.answersTo name) = some name ∧
        e = .unknownServer name := by
  refine mapM_eq_error_iff (fun name hname => ?_) (fun name hname => ?_)
  · exact placeOf_of_answersTo (by simpa using hname)
  · exact placeOf_of_not_answersTo (by simpa using hname)

theorem forall₂_of_mapM_placeOf (h : names.mapM s.placeOf = .ok places) :
    List.Forall₂ s.IsFirstOf names places := by
  induction names generalizing places with
  | nil =>
    obtain rfl : [] = places := Except.ok.inj h
    exact .nil
  | cons name names ih =>
    rw [List.mapM_cons] at h
    rcases exists_of_bind_eq_ok h with ⟨place, hplace, h⟩
    rcases exists_of_bind_eq_ok h with ⟨rest, hrest, h⟩
    obtain rfl : place :: rest = places := Except.ok.inj h
    exact .cons (isFirstOf_of_placeOf hplace) (ih hrest)

/-- Which name stops logging out. -/
theorem selected_eq_error_iff {e : ResolveError} :
    s.selected names = .error e ↔
      ∃ name, names.find? (fun name => !s.answersTo name) = some name ∧
        e = .unknownServer name := by
  unfold selected
  cases names with
  | nil =>
    constructor
    · intro h
      cases h
    · rintro ⟨name, hname, -⟩
      cases hname
  | cons name names => exact mapM_placeOf_eq_error_iff

/-- A name that nobody answers to stops logging out wherever it stands. -/
theorem exists_selected_eq_error_iff :
    (∃ e, s.selected names = .error e) ↔
      ∃ name ∈ names, ∀ b ∈ s.brokers, b.answersTo name = false := by
  constructor
  · rintro ⟨e, he⟩
    rcases selected_eq_error_iff.mp he with ⟨name, hfind, -⟩
    have hnobody : s.answersTo name = false := by simpa using List.find?_some hfind
    exact ⟨name, List.mem_of_find?_eq_some hfind, answersTo_eq_false_iff.mp hnobody⟩
  · rintro ⟨name, hmem, hnobody⟩
    have hsome : (names.find? fun name => !s.answersTo name).isSome = true :=
      List.find?_isSome.mpr ⟨name, hmem, by rw [answersTo_eq_false_iff.mpr hnobody]; rfl⟩
    rcases Option.isSome_iff_exists.mp hsome with ⟨first, hfirst⟩
    exact ⟨_, selected_eq_error_iff.mpr ⟨first, hfirst, rfl⟩⟩

theorem selects_of_selected (h : s.selected names = .ok places) : s.Selects names places := by
  unfold selected at h
  cases names with
  | nil => exact ⟨fun _ => (Except.ok.inj h).symm, fun hne => absurd rfl hne⟩
  | cons name names => exact ⟨fun hnil => (by cases hnil), fun _ => forall₂_of_mapM_placeOf h⟩

/-! ## Dropping cookies -/

/-- Whether the broker at a place has cookies. -/
def hasCookiesAt (s : Session) (place : Nat) : Bool := s.brokers[place]?.any Broker.hasCookies

/-- A session is another one without the cookies of the brokers at some places. -/
structure IsWithout (s : Session) (places : List Nat) (s' : Session) : Prop where
  directory : s'.directory = s.directory
  targets : s'.targets = s.targets
  dropped : ∀ i ∈ places, s'.brokers[i]? = s.brokers[i]?.map fun b =>
    { b with cookies := [], changed := b.changed || b.hasCookies }
  others : ∀ i, i ∉ places → s'.brokers[i]? = s.brokers[i]?

theorem targets_forgetAt (s : Session) (places : List Nat) :
    (s.forgetAt places).1.targets = s.targets := by
  induction places generalizing s with
  | nil => rfl
  | cons place places ih =>
    unfold forgetAt
    split
    · exact ih s
    · exact ih _

theorem isWithout_forgetAt (s : Session) (places : List Nat) :
    s.IsWithout places (s.forgetAt places).1 where
  directory := directory_forgetAt s places
  targets := targets_forgetAt s places
  dropped := by
    intro i hi
    rw [getElem?_forgetAt]
    simp only [if_pos hi, Broker.forget_eq]
  others := by
    intro i hi
    rw [getElem?_forgetAt]
    simp only [if_neg hi, Option.map_id']

/-- One broker less has cookies. -/
theorem hasCookiesAt_set_forget {place : Nat} {b : Broker} (h : s.brokers[place]? = some b)
    (i : Nat) :
    hasCookiesAt { s with brokers := s.brokers.set place b.forget } i =
      (decide (i ≠ place) && s.hasCookiesAt i) := by
  unfold hasCookiesAt
  by_cases hi : i = place
  · have hlt : place < s.brokers.length := (List.getElem?_eq_some_iff.mp h).1
    rw [hi, List.getElem?_set_self hlt, Option.any_some, b.not_hasCookies_forget,
      decide_eq_false (fun hne => hne rfl), Bool.false_and]
  · rw [List.getElem?_set_ne (Ne.symm hi), decide_eq_true hi, Bool.true_and]

theorem hasCookiesAt_forgetAt (s : Session) (places : List Nat) {i : Nat} (hi : i ∈ places) :
    (s.forgetAt places).1.hasCookiesAt i = false := by
  unfold hasCookiesAt
  rw [getElem?_forgetAt]
  simp only [if_pos hi]
  cases s.brokers[i]? with
  | none => rfl
  | some b => exact b.not_hasCookies_forget

/-- A broker is counted once, however often it is selected. -/
theorem length_forgetAt (s : Session) (places : List Nat) :
    (s.forgetAt places).2.length =
      (places.toFinset.filter fun i => s.hasCookiesAt i = true).card := by
  induction places generalizing s with
  | nil => rfl
  | cons place places ih =>
    rw [List.toFinset_cons, Finset.filter_insert]
    unfold forgetAt
    cases hb : s.brokers[place]? with
    | none =>
      have hnone : ¬s.hasCookiesAt place = true := by
        unfold hasCookiesAt
        rw [hb]
        exact Bool.false_ne_true
      rw [if_neg hnone]
      exact ih s
    | some b =>
      have hhas : s.hasCookiesAt place = b.hasCookies := by
        unfold hasCookiesAt
        rw [hb]
        rfl
      -- Those that are counted later are the other ones.
      have hrest := ih { s with brokers := s.brokers.set place b.forget }
      simp only [hasCookiesAt_set_forget hb, Bool.and_eq_true, decide_eq_true_eq] at hrest
      rw [hhas]
      dsimp only
      cases hcookies : b.hasCookies with
      | true =>
        rw [if_pos rfl, if_pos rfl, List.length_cons, hrest,
          ← Finset.card_insert_of_notMem (a := place) (by simp)]
        congr 1
        ext i
        by_cases hi : i = place <;> simp [hi, hhas, hcookies]
      | false =>
        rw [if_neg Bool.false_ne_true, if_neg Bool.false_ne_true, hrest]
        congr 1
        ext i
        by_cases hi : i = place <;> simp [hi, hhas, hcookies]

/-- Where there are no cookies, nothing happens. -/
theorem forgetAt_of_not_hasCookiesAt (h : ∀ i ∈ places, s.hasCookiesAt i = false) :
    s.forgetAt places = (s, []) := by
  induction places with
  | nil => rfl
  | cons place places ih =>
    rcases List.forall_mem_cons.mp h with ⟨hplace, hplaces⟩
    unfold forgetAt
    cases hb : s.brokers[place]? with
    | none => exact ih hplaces
    | some b =>
      have hcookies : b.hasCookies = false := by
        unfold hasCookiesAt at hplace
        rw [hb] at hplace
        exact hplace
      have hset : s.brokers.set place b = s.brokers := by
        rcases List.getElem?_eq_some_iff.mp hb with ⟨hlt, rfl⟩
        exact List.set_getElem_self hlt
      dsimp only
      rw [Broker.forget_of_not_hasCookies hcookies, hset, hcookies, ih hplaces]
      rfl

/-! ## Logging out -/

theorem run_logout_of_error {e : ResolveError} (h : s.selected names = .error e) (m : Machine) :
    (s.logout names).run m = (.error e, m) := by
  unfold logout dropCookies
  rw [h]
  rfl

theorem run_logout_of_ok (h : s.selected names = .ok places) (m : Machine) :
    ((s.logout names).run m).1 = .ok ((s.forgetAt places).1, (s.forgetAt places).2.length) := by
  unfold logout dropCookies
  rw [h]
  rfl

/-- Logging out again finds nothing to drop, and nothing is logged. -/
theorem run_logout_again (h : s.selected names = .ok places) (m : Machine) :
    ((s.forgetAt places).1.logout names).run m = (.ok ((s.forgetAt places).1, 0), m) := by
  -- The same brokers are selected, and none of them has cookies left.
  have hselected : (s.forgetAt places).1.selected names = .ok places := by
    rw [selected_congr (servers_forgetAt s places), h]
  have hforget := forgetAt_of_not_hasCookiesAt fun i hi => hasCookiesAt_forgetAt s places hi
  unfold logout dropCookies
  rw [hselected, Except.map, hforget]
  rfl

end Session

/-! ## The command -/

namespace Commands

variable {c : Context}

/-- Without brokers there is nothing to log out of, and names are not even looked at. -/
theorem run_logout_of_isEmpty (h : c.session.brokers.isEmpty = true) (names : List String)
    (m : Machine) : (((logout (.logout names)).run.run c).run m).1.2 = c := by
  change (((if c.session.brokers.isEmpty = true then _ else _ : Attempt CommandResult).run.run
    c).run m).1.2 = c
  rw [if_pos h]
  rfl

/-- What is left of a context after logging out. -/
theorem run_logout (c : Context) (names : List String) (m : Machine) :
    (((logout (.logout names)).run.run c).run m).1.2 =
      match ((c.session.logout names).run m).1 with
      | .error _ => c
      | .ok (session, _) => { c with session } := by
  cases hempty : c.session.brokers.isEmpty with
  | true =>
    rw [run_logout_of_isEmpty hempty]
    cases hselected : c.session.selected names with
    | error e => rw [Session.run_logout_of_error hselected]
    | ok places =>
      -- There is nobody with cookies.
      have hforget : c.session.forgetAt places = (c.session, []) := by
        refine Session.forgetAt_of_not_hasCookiesAt fun i _ => ?_
        unfold Session.hasCookiesAt
        rw [List.isEmpty_iff.mp hempty]
        rfl
      rw [Session.run_logout_of_ok hselected, hforget]
  | false =>
    have hlift : ((liftM (c.session.logout names) : Attempt _).run.run c).run m =
        ((.ok ((c.session.logout names).run m).1, c), ((c.session.logout names).run m).2) := rfl
    change (((if c.session.brokers.isEmpty = true then _ else _ : Attempt CommandResult).run.run
      c).run m).1.2 = _
    rw [hempty, if_neg Bool.false_ne_true, ExceptT.run_bind, StateT.run_bind, Action.run_bind,
      hlift]
    cases ((c.session.logout names).run m).1 with
    | error e => rfl
    | ok result => rfl

end Commands

/-- Logging out does all of what it was asked for, or nothing. It fails exactly if there is
    a name that no broker answers to; the error is about the first such name, and then
    nothing has changed. Otherwise the brokers that the names stand for have no cookies
    afterwards, they have changed if they had or had changed before, nothing else is
    different, and the number is that of the brokers which had cookies. Doing the same
    again does nothing. -/
theorem Session.logout_all_or_nothing (s : Session) (names : List String) (m : Machine) :
    let result := ((s.logout names).run m).1
    let contextAfter := fun c : Context => (((Commands.logout (.logout names)).run.run c).run m).1.2
    ((∃ e, result = .error e) ↔ ∃ name ∈ names, ∀ b ∈ s.brokers, b.answersTo name = false) ∧
    (∀ e, result = .error e →
      (∃ name, names.find? (fun name => !s.answersTo name) = some name ∧
        e = .unknownServer name) ∧
      ((s.logout names).run m).2 = m ∧ ∀ c : Context, c.session = s → contextAfter c = c) ∧
    ∀ s' cleared, result = .ok (s', cleared) → ∃ places,
      s.Selects names places ∧ s.IsWithout places s' ∧
      cleared = (places.toFinset.filter fun i => s.hasCookiesAt i = true).card ∧
      (∀ c : Context, c.session = s → contextAfter c = { c with session := s' }) ∧
      ∀ m', (s'.logout names).run m' = (.ok (s', 0), m') := by
  intro result contextAfter
  have hcontext : ∀ c : Context, c.session = s → contextAfter c = match result with
      | .error _ => c
      | .ok (session, _) => { c with session } := by
    rintro c rfl
    exact Commands.run_logout c names m
  have hfails : (∃ e, result = .error e) ↔ ∃ e, s.selected names = .error e := by
    cases hselected : s.selected names with
    | error e =>
      exact ⟨fun _ => ⟨e, rfl⟩, fun _ => ⟨e, congrArg Prod.fst (run_logout_of_error hselected m)⟩⟩
    | ok places =>
      have hresult : result = .ok _ := run_logout_of_ok hselected m
      exact ⟨fun ⟨e, he⟩ => (by cases hresult.symm.trans he), fun ⟨e, he⟩ => (by cases he)⟩
  refine ⟨hfails.trans exists_selected_eq_error_iff, fun e he => ?_, fun s' cleared hok => ?_⟩
  · rcases hfails.mp ⟨e, he⟩ with ⟨e', hselected⟩
    have hrun := run_logout_of_error hselected m
    obtain rfl : e' = e := Except.error.inj ((congrArg Prod.fst hrun).symm.trans he)
    refine ⟨selected_eq_error_iff.mp hselected, congrArg Prod.snd hrun, fun c hc => ?_⟩
    rw [hcontext c hc, he]
  · cases hselected : s.selected names with
    | error e =>
      rcases hfails.mpr ⟨e, hselected⟩ with ⟨e', he'⟩
      cases he'.symm.trans hok
    | ok places =>
      cases (run_logout_of_ok hselected m).symm.trans hok
      refine ⟨places, selects_of_selected hselected, isWithout_forgetAt s places,
        length_forgetAt s places, fun c hc => ?_, run_logout_again hselected⟩
      rw [hcontext c hc, hok]

end BrokerClient
