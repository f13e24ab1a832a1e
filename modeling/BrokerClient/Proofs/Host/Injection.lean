import BrokerClient.Host.Assignment
import BrokerClient.Proofs.Control
import BrokerClient.Proofs.Host.Action
import BrokerClient.Proofs.Text.Encoding
import BrokerClient.Proofs.Text.Trimming
import Mathlib.Data.List.Induction
import Mathlib.Data.List.TakeWhile

/-!
# What Assignments Do

A list of assignments is read before any of it is applied. So one malformed text, wherever
it stands, keeps the machine as it was, and the first one gives the error. Which texts are
malformed is said here without reading them: there is no name, or there is a NUL in the name
or in the value.

The system refuses to store some names and values, and a process that sets one of these
ends. What was read is never refused. There is something left of the name, the name has no
equals sign since the text is cut at the first one, and a NUL would have been an error.

A variable that is set again keeps its place in the environment. Of two changes of one
variable only the later one counts, and the changes of a variable that is there can be
exchanged with those of any other (`Environment.set_comm`). So a list that has been applied
can be applied again, as another process does that is started with the same command line,
and the environment stays as it is, down to the order of its variables.

## Main definitions

* `Environment.CanHold`: The system can store a value under a name.
* `Environment.store?`: Setting a variable, unless the process ends there.
* `Assignment.nameIn`, `Assignment.valueIn`: The two parts of a text.
* `Assignment.ofText`: The assignment that they make.
* `Assignment.IsMalformed`, `Assignment.flaw`: The texts that are no assignments, and why.
* `Assignment.event`: What is logged of an assignment.

## Theorems

* `Environment.set_set`: Of two changes of a variable the later one counts.
* `Environment.set_comm`: Two variables can be set in either order, if one is there.
* `Assignment.parse_eq`: What is read from a text.
* `Assignment.get?_applyAll`: The last assignment to a variable counts.
* `Assignment.applyAll_applyAll`: Assignments can be applied again.
* `Assignment.run_forM_applyLogged`: What a list of assignments does to a machine.
* `Assignment.inject_all_or_nothing`: All of a list is applied, or nothing.
-/

namespace BrokerClient

/-! ## Setting variables -/

namespace Environment

variable {e : Environment} {name value : OsText}

/-- The system can store the value under the name. -/
def CanHold (name value : OsText) : Prop :=
  name.isEmpty = false ∧ 0x3D ∉ name.bytes ∧ name.hasNul = false ∧ value.hasNul = false

instance (name value : OsText) : Decidable (CanHold name value) :=
  inferInstanceAs (Decidable (_ ∧ _ ∧ _ ∧ _))

/-- The environment with a variable set, unless the system cannot store it. A process
    that tries ends there. -/
def store? (e : Environment) (name value : OsText) : Option Environment :=
  if CanHold name value then some (e.set name value) else none

theorem get?_cons (v : OsText × OsText) (rest : List (OsText × OsText)) (name : OsText) :
    (Environment.mk (v :: rest)).get? name =
      if v.1 = name then some v.2 else (Environment.mk rest).get? name := by
  unfold get?
  rw [List.find?_cons]
  by_cases h : v.1 = name <;> simp [h]

/-- Of two changes of a variable the later one counts. -/
theorem set_set (e : Environment) (name value value' : OsText) :
    (e.set name value).set name value' = e.set name value' := by
  rcases e with ⟨bindings⟩
  unfold set
  refine congrArg Environment.mk ?_
  induction bindings with
  | nil => simp [setIn]
  | cons v rest ih =>
    by_cases hname : v.1 = name
    · simp [setIn, hname]
    · simp [setIn, hname, ih]

/-- Two variables can be set in either order, if one of them is there: it keeps its
    place. -/
theorem set_comm {name' value' : OsText} (hne : name ≠ name') (h : (e.get? name).isSome = true) :
    (e.set name value).set name' value' = (e.set name' value').set name value := by
  rcases e with ⟨bindings⟩
  unfold set
  refine congrArg Environment.mk ?_
  induction bindings with
  | nil => cases h
  | cons v rest ih =>
    rw [get?_cons] at h
    by_cases hname : v.1 = name
    · have hname' : v.1 ≠ name' := hname ▸ hne
      simp [setIn, hname, hne]
    · rw [if_neg hname] at h
      by_cases hname' : v.1 = name'
      · simp [setIn, hname', hne.symm]
      · simp [setIn, hname, hname', ih h]

theorem isSome_get?_set {name' : OsText} (h : (e.get? name').isSome = true) :
    ((e.set name value).get? name').isSome = true := by
  rw [get?_set]
  split
  · rfl
  · exact h

end Environment

namespace Assignment

/-! ## Reading -/

/-- What stands in front of the first equals sign, without the blanks around it. -/
def nameIn (text : String) : List Char := Unicode.trim (text.toList.takeWhile (· ≠ '='))

/-- What stands behind the first equals sign, or the value of a variable that is only
    named. -/
def valueIn (text : String) : List Char :=
  if '=' ∈ text.toList then (text.toList.dropWhile (· ≠ '=')).tail else bareValue

/-- The assignment that a text stands for. -/
def ofText (text : String) : Assignment := ⟨nameIn text, valueIn text⟩

/-- There is no name, or a NUL, which the system cannot store. -/
def IsMalformed (text : String) : Prop :=
  nameIn text = [] ∨ '\x00' ∈ nameIn text ∨ '\x00' ∈ valueIn text

instance : DecidablePred IsMalformed := fun _ => inferInstanceAs (Decidable (_ ∨ _ ∨ _))

/-- What is wrong with a malformed text. -/
def flaw (text : String) : AssignmentError :=
  if nameIn text = [] then .missingKey text else .invalidCharacter text

/-- The two parts are those around the first equals sign. -/
theorem cut_eq (text : String) :
    (splitOnce '=' text.toList).getD (text.toList, bareValue) =
      (text.toList.takeWhile (· ≠ '='), valueIn text) := by
  unfold valueIn
  cases hsplit : splitOnce '=' text.toList with
  | none =>
    have hno : '=' ∉ text.toList := splitOnce_eq_none.mp hsplit
    rw [if_neg hno, takeWhile_of_notMem hno]
    rfl
  | some parts =>
    rcases parts with ⟨front, back⟩
    rcases splitOnce_eq_some.mp hsplit with ⟨htext, hno⟩
    have hyes : '=' ∈ text.toList := by
      rw [htext]
      exact List.mem_append_right _ List.mem_cons_self
    rw [if_pos hyes, htext, takeWhile_append_of_notMem hno, dropWhile_append_of_notMem hno]
    rfl

/-- What is read from a text. -/
theorem parse_eq (text : String) :
    parse text = if IsMalformed text then .error (flaw text) else .ok (ofText text) := by
  unfold parse
  rw [cut_eq]
  change (if (nameIn text).isEmpty = true then _ else _) = _
  unfold IsMalformed flaw
  by_cases hname : nameIn text = []
  · simp [hname]
  · simp only [List.isEmpty_iff, hname, false_or, if_false, Bool.or_eq_true,
      List.contains_iff_mem]
    rfl

theorem parse_of_isMalformed {text : String} (h : IsMalformed text) :
    parse text = .error (flaw text) := by
  rw [parse_eq, if_pos h]

theorem parse_of_not_isMalformed {text : String} (h : ¬IsMalformed text) :
    parse text = .ok (ofText text) := by
  rw [parse_eq, if_neg h]

/-- The first malformed text of a list gives the error. -/
theorem mapM_parse_eq_error_iff {texts : List String} {e : AssignmentError} :
    texts.mapM parse = .error e ↔
      ∃ text, texts.find? (fun text => IsMalformed text) = some text ∧ e = flaw text := by
  refine mapM_eq_error_iff (fun text h => ?_) (fun text h => ?_)
  · exact ⟨_, parse_of_not_isMalformed (of_decide_eq_false h)⟩
  · exact parse_of_isMalformed (of_decide_eq_true h)

/-- What was read can be stored. -/
theorem canHold_of_not_isMalformed {text : String} (h : ¬IsMalformed text) :
    Environment.CanHold (.ofChars (nameIn text)) (.ofChars (valueIn text)) := by
  rcases not_or.mp h with ⟨hempty, hnul⟩
  rcases not_or.mp hnul with ⟨hname, hvalue⟩
  have hequals : '=' ∉ nameIn text := by
    intro hmem
    have hfront := List.mem_takeWhile_imp (Unicode.mem_of_mem_trimWhere hmem)
    simp at hfront
  have hnul : ∀ cs : List Char, '\x00' ∉ cs → (OsText.ofChars cs).hasNul = false := by
    intro cs hcs
    have hbyte : 0 ∉ Utf8.encode cs := Utf8.notMem_encode (c := '\x00') (by decide) hcs
    unfold OsText.hasNul OsText.ofChars
    simpa using hbyte
  refine ⟨?_, Utf8.notMem_encode (c := '=') (by decide) hequals, hnul _ hname, hnul _ hvalue⟩
  -- Each character is at least one byte.
  rcases List.exists_cons_of_ne_nil hempty with ⟨c, rest, hcons⟩
  unfold OsText.isEmpty OsText.ofChars
  rw [hcons, Utf8.encode_cons, List.isEmpty_eq_false_iff]
  exact List.append_ne_nil_of_left_ne_nil (Utf8.encodeChar_ne_nil c) _

/-! ## Applying -/

variable {e : Environment} {a : Assignment} {as : List Assignment}

theorem applyAll_append (e : Environment) (as bs : List Assignment) :
    applyAll e (as ++ bs) = applyAll (applyAll e as) bs :=
  List.foldl_append

/-- The last assignment to a variable counts. -/
theorem get?_applyAll (e : Environment) (as : List Assignment) (name : OsText) :
    (applyAll e as).get? name =
      ((as.reverse.find? fun a => .ofChars a.key = name).map fun a => .ofChars a.value).or
        (e.get? name) := by
  induction as using List.reverseRecOn with
  | nil => rfl
  | append_singleton as a ih =>
    rw [applyAll_append, List.reverse_append, List.reverse_singleton, List.singleton_append,
      List.find?_cons]
    change (apply (applyAll e as) a).get? name = _
    unfold apply
    rw [Environment.get?_set]
    by_cases hname : OsText.ofChars a.key = name
    · simp [hname]
    · simp [hname, Ne.symm hname, ih]

theorem isSome_get?_applyAll (h : a ∈ as) :
    ((applyAll e as).get? (.ofChars a.key)).isSome = true := by
  rw [get?_applyAll, Option.isSome_or, Option.isSome_map]
  have hfound : (as.reverse.find? fun b => OsText.ofChars b.key = .ofChars a.key).isSome = true :=
    List.find?_isSome.mpr ⟨a, List.mem_reverse.mpr h, decide_eq_true rfl⟩
  rw [hfound, Bool.true_or]

/-- An assignment in front of others does not show if it is made again behind them, and the
    variables of the others are there. -/
theorem apply_applyAll_apply (a : Assignment)
    (h : ∀ b ∈ as, (e.get? (.ofChars b.key)).isSome = true) :
    apply (applyAll (apply e a) as) a = apply (applyAll e as) a := by
  induction as generalizing e with
  | nil => exact Environment.set_set e _ _ _
  | cons b as ih =>
    rcases List.forall_mem_cons.mp h with ⟨hb, has⟩
    change apply (applyAll (apply (apply e a) b) as) a = apply (applyAll (apply e b) as) a
    by_cases hkey : OsText.ofChars b.key = .ofChars a.key
    · -- The next assignment is to the same variable.
      have hsame : apply (apply e a) b = apply e b := by
        unfold apply
        rw [hkey, Environment.set_set]
      rw [hsame]
    · have hcomm : apply (apply e a) b = apply (apply e b) a :=
        (Environment.set_comm hkey hb).symm
      rw [hcomm]
      exact ih fun c hc => Environment.isSome_get?_set (has c hc)

/-- Assignments can be applied again. -/
theorem applyAll_applyAll (e : Environment) (as : List Assignment) :
    applyAll (applyAll e as) as = applyAll e as := by
  induction as using List.reverseRecOn with
  | nil => rfl
  | append_singleton as a ih =>
    rw [applyAll_append, applyAll_append]
    change apply (applyAll (apply (applyAll e as) a) as) a = apply (applyAll e as) a
    rw [apply_applyAll_apply a fun b hb => isSome_get?_applyAll hb, ih]

/-! ## The machine -/

/-- What is logged of an assignment. -/
def event (a : Assignment) : Log.Event :=
  ⟨.debug, logTarget, "setting environment variable",
    [("key", String.ofList a.key), ("value", String.ofList a.value)], none⟩

/-- All that a list of assignments does to a machine. -/
theorem run_forM_applyLogged (as : List Assignment) (m : Machine) :
    (as.forM applyLogged).run m =
      (⟨⟩, { m with
        environment := applyAll m.environment as, events := m.events ++ as.map event }) := by
  induction as generalizing m with
  | nil =>
    rw [List.map_nil, List.append_nil]
    rfl
  | cons a as ih =>
    have hstep : (applyLogged a).run m =
        (⟨⟩, { m with
          environment := apply m.environment a, events := m.events ++ [event a] }) := rfl
    change ((applyLogged a >>= fun _ => as.forM applyLogged) : Action PUnit).run m = _
    rw [Action.run_bind, hstep, ih, List.map_cons, List.append_assoc]
    rfl

/-- Assignments that are all well formed are applied in order. -/
theorem run_inject_eq {texts : List String} {as : List Assignment}
    (h : texts.mapM parse = .ok as) (m : Machine) :
    (inject texts).run m =
      (.ok (), { m with
        environment := applyAll m.environment as, events := m.events ++ as.map event }) := by
  unfold inject
  rw [h]
  simp only
  rw [Action.run_bind, run_forM_applyLogged]
  rfl

/-- A malformed assignment leaves all of them without effect. -/
theorem run_inject_error {texts : List String} {e : AssignmentError}
    (h : texts.mapM parse = .error e) (m : Machine) : (inject texts).run m = (.error e, m) := by
  unfold inject
  rw [h]
  rfl

theorem foldlM_store? {texts : List String} (h : ∀ text ∈ texts, ¬IsMalformed text)
    (e : Environment) :
    texts.foldlM (fun e text => e.store? (.ofChars (nameIn text)) (.ofChars (valueIn text))) e =
      some (applyAll e (texts.map ofText)) := by
  induction texts generalizing e with
  | nil => rfl
  | cons text texts ih =>
    rcases List.forall_mem_cons.mp h with ⟨htext, htexts⟩
    have hstore : e.store? (.ofChars (nameIn text)) (.ofChars (valueIn text)) =
        some (apply e (ofText text)) := if_pos (canHold_of_not_isMalformed htext)
    rw [List.foldlM_cons, hstore]
    exact ih htexts _

/-- Either all of a list of assignments is applied, or nothing. It fails exactly if one of the
    texts is malformed; then the first of these gives the error, and the machine is what it
    was. Otherwise every variable is set to something that the system can store, one after the
    other. The last text for a variable counts, variables without a text keep their values,
    and the same list does nothing more to the resulting environment, on whatever machine. -/
theorem inject_all_or_nothing (texts : List String) (m : Machine) :
    let r := (inject texts).run m
    ((∃ e, r.1 = .error e) ↔ ∃ text ∈ texts, IsMalformed text) ∧
    (∀ e, r.1 = .error e →
      (∃ text, texts.find? (fun text => IsMalformed text) = some text ∧ e = flaw text) ∧
      r.2 = m) ∧
    (r.1 = .ok () →
      (∃ environment events, r.2 = { m with environment, events }) ∧
      texts.foldlM (fun e text => e.store? (.ofChars (nameIn text)) (.ofChars (valueIn text)))
        m.environment = some r.2.environment ∧
      (∀ name, r.2.environment.get? name =
        ((texts.reverse.find? fun text => .ofChars (nameIn text) = name).map
          fun text => .ofChars (valueIn text)).or (m.environment.get? name)) ∧
      ∀ m' : Machine, m'.environment = r.2.environment →
        ∃ events, (inject texts).run m' = (.ok (), { m' with events })) := by
  intro r
  by_cases hbad : ∃ text ∈ texts, IsMalformed text
  · have hsome : (texts.find? fun text => IsMalformed text).isSome = true := by
      rcases hbad with ⟨text, htext, hmalformed⟩
      exact List.find?_isSome.mpr ⟨text, htext, decide_eq_true hmalformed⟩
    rcases Option.isSome_iff_exists.mp hsome with ⟨text, hfind⟩
    have hr : r = (.error (flaw text), m) :=
      run_inject_error (mapM_parse_eq_error_iff.mpr ⟨text, hfind, rfl⟩) m
    rw [hr]
    refine ⟨⟨fun _ => hbad, fun _ => ⟨_, rfl⟩⟩, fun e he => ?_, fun hok => nomatch hok⟩
    exact ⟨⟨text, hfind, (Except.error.inj he).symm⟩, rfl⟩
  · have hgood : ∀ text ∈ texts, ¬IsMalformed text :=
      fun text htext hmalformed => hbad ⟨text, htext, hmalformed⟩
    have hread : texts.mapM parse = .ok (texts.map ofText) :=
      mapM_eq_ok_of_forall fun text htext => parse_of_not_isMalformed (hgood text htext)
    have hr : r = (.ok (), { m with
        environment := applyAll m.environment (texts.map ofText),
        events := m.events ++ (texts.map ofText).map event }) := run_inject_eq hread m
    rw [hr]
    refine ⟨⟨fun ⟨_, he⟩ => (nomatch he), fun h => absurd h hbad⟩, fun _ he => (nomatch he),
      fun _ => ⟨⟨_, _, rfl⟩, foldlM_store? hgood _, fun name => ?_, fun m' hm' => ?_⟩⟩
    · change (applyAll m.environment (texts.map ofText)).get? name = _
      rw [get?_applyAll, ← List.map_reverse, List.find?_map, Option.map_map]
      rfl
    · -- The environment is the one that the list leaves, so it is left again.
      have hsame : applyAll m'.environment (texts.map ofText) = m'.environment := by
        rw [hm']
        exact applyAll_applyAll m.environment (texts.map ofText)
      have hagain := run_inject_eq hread m'
      rw [hsame] at hagain
      exact ⟨_, hagain⟩

end Assignment

end BrokerClient
