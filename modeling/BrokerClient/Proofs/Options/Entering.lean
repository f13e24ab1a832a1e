import BrokerClient.Options.Parser
import BrokerClient.Proofs.Control
import BrokerClient.Proofs.Text.Encoding
import BrokerClient.Text.Splitting

/-!
# Entering Options

What the reader does to an argument depends on its state in two ways only. The
state says whether an option waits for a value, and it holds what was settled
so far. So the argument decides which option is entered, and with which value
if one stands in the argument itself (`step_cases`). All the rest is settling.

An option that is pending makes no difference to what is settled behind it, as
long as it settles in the end: entering the next option settles it first
(`enter_settles`).

All this is for grammars without positional arguments whose letters are those
of options with a value and of reports. A letter of such a grammar is the only
one in its argument, unless the reading stops at it.

## Main definitions

* `Options.Grammar.IsPlain`: The grammars that are looked at here.
* `Options.Grammar.valuesHere`: The values that an option has in its own argument.
* `Options.Grammar.enter`: Enters an option.
* `Options.longForm`: An option by its long name, as one argument.

## Theorems

* `Options.Grammar.settleOption_eq_ok_iff`: When an option settles, and as what.
* `Options.Grammar.readOption_eq_some`: An argument enters the same option in every state.
* `Options.Grammar.step_cases`: An argument enters an option or is the value that one waits for.
* `Options.Grammar.step_longForm`: The long form of an option enters it.
-/

namespace BrokerClient

namespace Options

/-- A value in the argument of its option. -/
def inlineBytes : Option OsText → List UInt8
  | none => []
  | some value => 0x3D :: value.bytes

/-- An option by its long name, with a value behind an equals sign or
    without. -/
def longForm (s : Spec) (inline : Option OsText) : OsText :=
  ⟨0x2D :: 0x2D :: (OsText.ofString s.long).bytes ++ inlineBytes inline⟩

namespace Grammar

variable {g : Grammar} {calledAs : String}

/-! ## Settling -/

/-- An option settles if it asks for no report, is not there already unless it
    may be repeated, and its values pass its check. It is added at the end. -/
theorem settleOption_eq_ok_iff {m m' : Matches} {s : Spec} {values : List OsText} :
    g.settleOption calledAs m s values = .ok m' ↔
      (s.role ≠ .help ∧ s.role ≠ .version) ∧ (m.has s.long && !s.repeatable) = false ∧
        checkValues s.check s.shown values = .ok () ∧
          m' = { m with found := m.found ++ [(s.long, values)] } := by
  unfold settleOption
  -- Help and version settle as reports, which are errors.
  by_cases hhelp : s.role = .help
  · simp only [hhelp, reduceCtorEq, ne_eq, not_true_eq_false, false_and]
  by_cases hversion : s.role = .version
  · simp only [hversion, reduceCtorEq, ne_eq, not_true_eq_false, not_false_eq_true, and_false,
      false_and]
  have hroles : s.role ≠ .help ∧ s.role ≠ .version := ⟨hhelp, hversion⟩
  rw [show (s.role ≠ .help ∧ s.role ≠ .version) ↔ True from iff_true_intro hroles, true_and]
  split
  · next h => exact absurd h hhelp
  · next h => exact absurd h hversion
  · cases hrepeated : m.has s.long && !s.repeatable with
    | true => simp only [if_true, reduceCtorEq, false_and]
    | false =>
      cases hcheck : checkValues s.check s.shown values with
      | error e => simp [bind, Except.bind]
      | ok u => simp [bind, Except.bind, eq_comm]

/-- A text passes the check for one. -/
theorem checkValues_ofString (shown text : String) :
    checkValues requireText shown [OsText.ofString text] = .ok () := by
  unfold checkValues requireText
  simp only [List.findSome?_cons, OsText.text?_ofString, Option.isSome_some, if_true,
    Option.map_none, List.findSome?_nil]

theorem settle_nothing (m : Matches) (trailing : Bool) :
    g.settle calledAs ⟨m, .nothing, trailing⟩ = .ok m := rfl

theorem settle_awaiting {p : Progress} {s : Spec} (h : p.pending = .awaiting s) :
    g.settle calledAs p = .error (.missingValue s.shown) := by
  unfold settle
  rw [h]

/-- What can be settled waits for no value. -/
theorem isAwaiting_of_settle {p : Progress} {m : Matches} (h : g.settle calledAs p = .ok m) :
    isAwaiting p = false := by
  unfold isAwaiting
  split
  · next s hs =>
    rw [settle_awaiting hs] at h
    cases h
  · rfl

theorem settleBoth_of_settle {p : Progress} {m : Matches} (h : g.settle calledAs p = .ok m)
    (s : Spec) (values : List OsText) :
    g.settleBoth calledAs p s values =
      (g.settleOption calledAs m s values).map fun m' => ⟨m', .nothing, p.trailing⟩ := by
  unfold settleBoth
  rw [h]
  simp only [bind, Except.bind]
  cases g.settleOption calledAs m s values <;> rfl

theorem exists_settle_of_settleBoth {p p' : Progress} {s : Spec} {values : List OsText}
    (h : g.settleBoth calledAs p s values = .ok p') : ∃ m, g.settle calledAs p = .ok m := by
  rcases exists_of_bind_eq_ok h with ⟨m, hm, -⟩
  exact ⟨m, hm⟩

/-! ## Entering an option -/

/-- The values that an option has in its own argument, or none if the next
    argument is its value. -/
def valuesHere (s : Spec) (inline : Option OsText) : Option (List OsText) :=
  if takesValue s then
    match s.role, inline with
    | .inlineValue _ default, none => some [default]
    | _, some value => some [value]
    | _, none => none
  else some []

/-- Enters an option: what is pending is settled, and then the option itself,
    if it waits for no value. -/
def enter (g : Grammar) (calledAs : String) (p : Progress) (s : Spec) (inline : Option OsText) :
    Except Error Progress :=
  match valuesHere s inline with
  | some values => g.settleBoth calledAs p s values
  | none => do .ok { p with settled := ← g.settle calledAs p, pending := .awaiting s }

theorem beginOption_eq_enter {s : Spec} (h : takesValue s = true) (p : Progress)
    (inline : Option OsText) :
    g.beginOption calledAs p s inline = g.enter calledAs p s inline := by
  unfold beginOption enter valuesHere
  rw [if_pos h]
  cases s.role <;> cases inline <;> rfl

theorem settleBoth_eq_enter {s : Spec} (h : takesValue s = false) (p : Progress)
    (inline : Option OsText) :
    g.settleBoth calledAs p s [] = g.enter calledAs p s inline := by
  unfold enter valuesHere
  rw [if_neg (by rw [h]; decide)]

theorem exists_settle_of_enter {p p' : Progress} {s : Spec} {inline : Option OsText}
    (h : g.enter calledAs p s inline = .ok p') : ∃ m, g.settle calledAs p = .ok m := by
  unfold enter at h
  split at h
  · exact exists_settle_of_settleBoth h
  · rcases exists_of_bind_eq_ok h with ⟨m, hm, -⟩
    exact ⟨m, hm⟩

/-- An option that has its values settles with them. -/
theorem enter_settles {p : Progress} {m : Matches} (h : g.settle calledAs p = .ok m) {s : Spec}
    {inline : Option OsText} {values : List OsText} (hvalues : valuesHere s inline = some values) :
    g.enter calledAs p s inline =
      (g.settleOption calledAs m s values).map fun m' => ⟨m', .nothing, p.trailing⟩ := by
  unfold enter
  rw [hvalues]
  exact settleBoth_of_settle h s values

/-- An option that has none waits. -/
theorem enter_waits {p : Progress} {m : Matches} (h : g.settle calledAs p = .ok m) {s : Spec}
    {inline : Option OsText} (hvalues : valuesHere s inline = none) :
    g.enter calledAs p s inline = .ok ⟨m, .awaiting s, p.trailing⟩ := by
  unfold enter
  rw [hvalues, h]
  rfl

/-- Entering an option does not change how further arguments are taken. -/
theorem trailing_of_enter {p p' : Progress} {s : Spec} {inline : Option OsText}
    (h : g.enter calledAs p s inline = .ok p') : p'.trailing = p.trailing := by
  rcases exists_settle_of_enter h with ⟨m, hm⟩
  cases hvalues : valuesHere s inline with
  | some values =>
    rw [enter_settles hm hvalues] at h
    rcases exists_of_map_eq_ok h with ⟨m', -, rfl⟩
    rfl
  | none =>
    rw [enter_waits hm hvalues] at h
    rw [← Except.ok.inj h]

/-! ## Reading an argument -/

/-- A grammar without positional arguments, where a letter that takes no value
    asks for a report. -/
structure IsPlain (g : Grammar) : Prop where
  positional : g.positional = none
  letters : ∀ s ∈ g.options, s.short.isSome = true → takesValue s = false →
    s.role = .help ∨ s.role = .version

theorem IsPlain.allowsHyphens (hg : g.IsPlain) : g.allowsHyphens = false := by
  unfold Grammar.allowsHyphens
  rw [hg.positional]
  rfl

theorem mem_options_of_long? {name : List Char} {s : Spec} (h : g.long? name = some s) :
    s ∈ g.options ∧ s.long.toList = name :=
  ⟨List.mem_of_find?_eq_some h, by simpa using List.find?_some h⟩

theorem mem_options_of_short? {c : Char} {s : Spec} (h : g.short? c = some s) :
    s ∈ g.options ∧ s.short = some c :=
  ⟨List.mem_of_find?_eq_some h, by simpa using List.find?_some h⟩

/-- A long name that no value follows or may follow, and its option. -/
theorem readLong_of_long? {body : List UInt8} {name : OsText} {inline : Option OsText}
    {cs : List Char} {s : Spec} (hbody : splitLong body = (name, inline))
    (hname : name.chars? = some cs) (hs : g.long? cs = some s)
    (hinline : takesValue s = false → inline = none) (p : Progress) :
    g.readLong calledAs p body = (g.enter calledAs p s inline).map some := by
  unfold readLong
  rw [hbody]
  simp only [hname, hs]
  cases ht : takesValue s with
  | true =>
    rw [if_pos rfl, beginOption_eq_enter ht]
    rfl
  | false =>
    rw [if_neg (by decide), hinline ht]
    simp only
    rw [settleBoth_eq_enter ht]
    rfl

theorem readLong_eq_some (hg : g.IsPlain) {p : Progress} {body : List UInt8} {r : Option Progress}
    (h : g.readLong calledAs p body = .ok r) :
    ∃ cs s, (splitLong body).1.chars? = some cs ∧ g.long? cs = some s ∧
      (takesValue s = false → (splitLong body).2 = none) := by
  unfold readLong at h
  rcases hbody : splitLong body with ⟨name, inline⟩
  rw [hbody] at h
  simp only at h
  split at h
  · cases h
  · next cs hcs =>
    split at h
    · next s hs =>
      refine ⟨cs, s, hcs, hs, fun ht => ?_⟩
      rw [ht, if_neg (by decide)] at h
      cases inline with
      | none => rfl
      | some value => cases h
    · rw [hg.allowsHyphens] at h
      cases h

/-- The first letter counts. If its option takes no value, the reading ends
    with a report. -/
theorem readLetters_eq_ok (hg : g.IsPlain) {p p' : Progress} {pieces : List Utf8.Piece}
    (hne : pieces ≠ []) (h : g.readLetters calledAs p pieces = .ok p') :
    ∃ s inline, s ∈ g.options ∧ s.short.isSome = true ∧
      ∀ q, g.readLetters calledAs q pieces = g.enter calledAs q s inline := by
  cases pieces with
  | nil => exact absurd rfl hne
  | cons piece rest =>
    cases piece with
    | broken bytes => cases h
    | char c =>
      unfold readLetters at h
      split at h
      · cases h
      · next s hs =>
        rcases mem_options_of_short? hs with ⟨hmem, hshort⟩
        have hsome : s.short.isSome = true := by rw [hshort]; rfl
        cases ht : takesValue s with
        | true =>
          refine ⟨s, shortValue s rest, hmem, hsome, fun q => ?_⟩
          unfold readLetters
          simp only [hs, ht, if_true]
          exact beginOption_eq_enter ht q _
        | false =>
          -- A letter without a value would be settled here, and a report cannot be.
          rw [ht, if_neg (by decide)] at h
          rcases exists_of_bind_eq_ok h with ⟨p₁, hp₁, -⟩
          rcases exists_of_bind_eq_ok hp₁ with ⟨m, -, hm⟩
          rcases exists_of_bind_eq_ok hm with ⟨m', hm', -⟩
          have hroles := (settleOption_eq_ok_iff.mp hm').1
          rcases hg.letters s hmem hsome ht with hhelp | hversion
          · exact absurd hhelp hroles.1
          · exact absurd hversion hroles.2

theorem readShort_eq_ok (hg : g.IsPlain) {p : Progress} {body : List UInt8} (hne : body ≠ [])
    {r : Option Progress} (h : g.readShort calledAs p body = .ok r) :
    ∃ s inline, s ∈ g.options ∧ s.short.isSome = true ∧
      ∀ q, g.readShort calledAs q body = (g.enter calledAs q s inline).map some := by
  have hletters : ∀ q, g.readShort calledAs q body =
      (g.readLetters calledAs q (Utf8.pieces body)).map some := by
    intro q
    unfold readShort
    rw [hg.allowsHyphens]
    rfl
  -- The pieces make up the bytes, so there is a first letter.
  have hpieces : Utf8.pieces body ≠ [] := by
    intro hnil
    have hbytes := Utf8.flatMap_bytes_pieces body
    rw [hnil] at hbytes
    exact hne hbytes.symm
  rw [hletters] at h
  rcases exists_of_map_eq_ok h with ⟨p', hp', -⟩
  rcases readLetters_eq_ok hg hpieces hp' with ⟨s, inline, hmem, hshort, henter⟩
  exact ⟨s, inline, hmem, hshort, fun q => by rw [hletters, henter]⟩

/-! ## Long forms -/

theorem splitLong_of_notMem {name : List UInt8} (h : 0x3D ∉ name) :
    splitLong name = (⟨name⟩, none) := by
  unfold splitLong
  simp only
  rw [takeWhile_of_notMem h, if_pos rfl]

theorem splitLong_append {name : List UInt8} (h : 0x3D ∉ name) (value : List UInt8) :
    splitLong (name ++ 0x3D :: value) = (⟨name⟩, some ⟨value⟩) := by
  unfold splitLong
  simp only
  rw [takeWhile_append_of_notMem h, if_neg (by rw [List.length_append, List.length_cons]; omega),
    ← List.drop_drop, List.drop_left]
  rfl

/-- What a long option is cut into makes it up. -/
theorem bytes_of_splitLong {body : List UInt8} {name : OsText} {inline : Option OsText}
    (h : splitLong body = (name, inline)) :
    body = name.bytes ++ inlineBytes inline := by
  by_cases hmem : 0x3D ∈ body
  · rcases List.eq_append_cons_of_mem hmem with ⟨front, value, rfl, hfront⟩
    rw [splitLong_append hfront] at h
    cases h
    rfl
  · rw [splitLong_of_notMem hmem] at h
    cases h
    exact (List.append_nil _).symm

/-- The long form of an option is cut into its name and its value. -/
theorem splitLong_longForm {s : Spec} (h : 0x3D ∉ (OsText.ofString s.long).bytes)
    (inline : Option OsText) :
    splitLong ((OsText.ofString s.long).bytes ++ inlineBytes inline) =
      (OsText.ofString s.long, inline) := by
  cases inline with
  | none =>
    unfold inlineBytes
    rw [List.append_nil]
    exact splitLong_of_notMem h
  | some value => exact splitLong_append h value.bytes

/-- An option that has no letter can only be given in its long form. -/
theorem longForm_of_readLong (hg : g.IsPlain) {p : Progress} {body : List UInt8}
    {r : Option Progress} (h : g.readLong calledAs p body = .ok r) :
    ∃ s inline, s ∈ g.options ∧ (⟨0x2D :: 0x2D :: body⟩ : OsText) = longForm s inline ∧
      ∀ q, g.readLong calledAs q body = (g.enter calledAs q s inline).map some := by
  rcases readLong_eq_some hg h with ⟨cs, s, hname, hs, hinline⟩
  rcases hbody : splitLong body with ⟨name, inline⟩
  rw [hbody] at hname hinline
  rcases mem_options_of_long? hs with ⟨hmem, hlong⟩
  refine ⟨s, inline, hmem, ?_, readLong_of_long? hbody hname hs hinline⟩
  have hbytes : (OsText.ofString s.long).bytes = name.bytes := by
    unfold OsText.ofString OsText.ofChars
    rw [hlong]
    exact Utf8.encode_of_decode? hname
  unfold longForm
  rw [hbytes, List.cons_append, List.cons_append, ← bytes_of_splitLong hbody]

/-! ## Steps -/

/-- An argument that is read as an option enters the same option in every
    state. It is the long form of that option, if there is no letter for it. -/
theorem readOption_eq_some (hg : g.IsPlain) {p p' : Progress} {argument : OsText}
    (h : g.readOption calledAs p argument = .ok (some p')) :
    ∃ s inline, s ∈ g.options ∧ (s.short = none → argument = longForm s inline) ∧
      ∀ q, g.readOption calledAs q argument = (g.enter calledAs q s inline).map some := by
  rcases argument with ⟨bytes⟩
  unfold readOption at h ⊢
  simp only at h ⊢
  split at h
  · next body =>
    rcases longForm_of_readLong hg h with ⟨s, inline, hmem, hform, henter⟩
    exact ⟨s, inline, hmem, fun _ => hform, henter⟩
  · cases h
  · next body hlong hshort =>
    have hne : body ≠ [] := fun hnil => hshort (by rw [hnil])
    rcases readShort_eq_ok hg hne h with ⟨s, inline, hmem, hletter, henter⟩
    -- An option that was entered by its letter has one.
    refine ⟨s, inline, hmem, fun hnone => ?_, henter⟩
    rw [hnone] at hletter
    exact absurd hletter (by decide)
  · cases h

/-- Whether an argument is no option does not depend on the state. -/
theorem readOption_eq_none (hg : g.IsPlain) {p : Progress} {argument : OsText}
    (h : g.readOption calledAs p argument = .ok none) (q : Progress) :
    g.readOption calledAs q argument = .ok none := by
  rcases argument with ⟨bytes⟩
  unfold readOption at h ⊢
  simp only at h ⊢
  split at h
  · rcases longForm_of_readLong hg h with ⟨s, inline, -, -, henter⟩
    rw [henter] at h
    rcases exists_of_map_eq_ok h with ⟨p', -, hp'⟩
    cases hp'
  · rfl
  · next body hlong hshort =>
    have hne : body ≠ [] := fun hnil => hshort (by rw [hnil])
    rcases readShort_eq_ok hg hne h with ⟨s, inline, -, -, henter⟩
    rw [henter] at h
    rcases exists_of_map_eq_ok h with ⟨p', -, hp'⟩
    cases hp'
  · rfl

/-- Outside the positional arguments a step reads the argument as an option. -/
theorem step_of_readOption {q r : Progress} {argument : OsText} (hq : q.trailing = false)
    (ha : argument ≠ OsText.ofString "--")
    (h : g.readOption calledAs q argument = (Except.ok r).map some) :
    g.step calledAs q argument = .ok r := by
  unfold step
  rw [hq, if_neg (by decide), if_neg ha, h]
  rfl

theorem readPositional_eq_error (hg : g.IsPlain) (calledAs : String) (p : Progress)
    (argument : OsText) : ∃ e, g.readPositional calledAs p argument = .error e := by
  unfold readPositional
  rw [hg.positional]
  simp only
  split
  · exact ⟨_, rfl⟩
  · split
    · exact ⟨_, rfl⟩
    · exact ⟨_, rfl⟩

/-- A step behind a double hyphen fails. -/
theorem step_of_trailing (hg : g.IsPlain) {p p' : Progress} {argument : OsText}
    (ht : p.trailing = true) : g.step calledAs p argument ≠ .ok p' := by
  intro h
  unfold step at h
  rw [ht, if_pos rfl] at h
  rcases readPositional_eq_error hg calledAs p argument with ⟨e, he⟩
  rw [he] at h
  cases h

/-- A double hyphen ends the options. -/
theorem step_doubleHyphen {p : Progress} (ht : p.trailing = false) :
    g.step calledAs p (OsText.ofString "--") = .ok { p with trailing := true } := by
  unfold step
  rw [ht, if_neg (by decide), if_pos rfl]

/-- No step that still looks for options was made at a double hyphen. -/
theorem ne_doubleHyphen (hg : g.IsPlain) {p p' : Progress} {argument : OsText}
    (h : g.step calledAs p argument = .ok p') (ht : p'.trailing = false) :
    argument ≠ OsText.ofString "--" := by
  intro ha
  have hp : p.trailing = false := Bool.eq_false_iff.mpr fun ht => step_of_trailing hg ht h
  rw [ha, step_doubleHyphen hp] at h
  rw [← Except.ok.inj h] at ht
  cases ht

/-- A step enters an option, the same one in every state, or takes the
    argument as the value that is waited for. -/
theorem step_cases (hg : g.IsPlain) {p p' : Progress} {argument : OsText}
    (ha : argument ≠ OsText.ofString "--") (h : g.step calledAs p argument = .ok p') :
    (∃ s inline, s ∈ g.options ∧ (s.short = none → argument = longForm s inline) ∧
      g.enter calledAs p s inline = .ok p' ∧
      ∀ q, q.trailing = false → ∀ q', g.enter calledAs q s inline = .ok q' →
        g.step calledAs q argument = .ok q') ∨
    (∃ s, p.pending = .awaiting s ∧ p' = { p with pending := .option s argument } ∧
      ∀ q, q.trailing = false → q.pending = .awaiting s →
        g.step calledAs q argument = .ok { q with pending := .option s argument }) := by
  have ht : p.trailing = false := Bool.eq_false_iff.mpr fun ht => step_of_trailing hg ht h
  unfold step at h
  rw [ht, if_neg (by decide), if_neg ha] at h
  rcases exists_of_bind_eq_ok h with ⟨r, hr, h⟩
  cases r with
  | some p₁ =>
    left
    rcases readOption_eq_some hg hr with ⟨s, inline, hmem, hform, henter⟩
    rw [henter] at hr
    rcases exists_of_map_eq_ok hr with ⟨p₂, hp₂, hsome⟩
    rw [Option.some.inj hsome] at hp₂
    rw [← Except.ok.inj h]
    refine ⟨s, inline, hmem, hform, hp₂, fun q hq q' hq' => step_of_readOption hq ha ?_⟩
    rw [henter, hq']
  | none =>
    right
    simp only at h
    split at h
    · next s hs =>
      refine ⟨s, hs, by rw [ht]; exact (Except.ok.inj h).symm, fun q hq hqs => ?_⟩
      unfold step
      rw [hq, if_neg (by decide), if_neg ha, readOption_eq_none hg hr q]
      simp only [bind, Except.bind, hqs]
    -- It can be no positional argument, since there are none.
    · rcases readPositional_eq_error hg calledAs p argument with ⟨e, he⟩
      rw [he] at h
      cases h

/-- Only a double hyphen makes the arguments behind it positional. -/
theorem trailing_of_step (hg : g.IsPlain) {p p' : Progress} {argument : OsText}
    (ha : argument ≠ OsText.ofString "--") (h : g.step calledAs p argument = .ok p') :
    p'.trailing = p.trailing := by
  rcases step_cases hg ha h with ⟨s, inline, -, -, henter, -⟩ | ⟨s, -, rfl, -⟩
  · exact trailing_of_enter henter
  · rfl

/-- The long form of an option enters it. -/
theorem step_longForm {s : Spec} {inline : Option OsText} {q : Progress}
    (hs : g.long? s.long.toList = some s) (hequals : 0x3D ∉ (OsText.ofString s.long).bytes)
    (hne : (OsText.ofString s.long).bytes ≠ []) (hinline : takesValue s = false → inline = none)
    (hq : q.trailing = false) :
    g.step calledAs q (longForm s inline) = g.enter calledAs q s inline := by
  -- The name is not empty, so the long form is more than the double hyphen.
  have ha : longForm s inline ≠ OsText.ofString "--" := by
    intro heq
    have hbytes : (OsText.ofString s.long).bytes ++ inlineBytes inline = [] := by
      have hform := congrArg OsText.bytes heq
      exact (List.cons.inj (List.cons.inj hform).2).2
    exact hne (List.append_eq_nil_iff.mp hbytes).1
  have hname : (OsText.ofString s.long).chars? = some s.long.toList := Utf8.decode?_encode _
  have hread : g.readOption calledAs q (longForm s inline) =
      (g.enter calledAs q s inline).map some :=
    readLong_of_long? (splitLong_longForm hequals inline) hname hs hinline q
  unfold step
  rw [hq, if_neg (by decide), if_neg ha, hread]
  cases g.enter calledAs q s inline <;> rfl

end Grammar

end Options

end BrokerClient
