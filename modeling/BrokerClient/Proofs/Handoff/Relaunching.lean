import BrokerClient.Handoff.Token
import BrokerClient.Proofs.Handoff.Marker
import Mathlib.Data.List.TakeDrop

/-!
# Reading a Relaunched Command Line

The second process reads the command line of the first one again, with the
flag that names the handoff file in front of the options. The two readings go
side by side. The second one has settled the flag before everything else, and
flags that name no file are not there any more. Otherwise the same options are
settled in the same order (`Follows`), if not always at the same argument: an
option that a dropped flag has settled stays pending in the second reading.

Flags are dropped in front of the first word that is the name of a command,
and this word may be the value of an option. A flag behind it is left in
place (`hidesFlag`). The second reading then meets the flag a second time, and
stops there.

## Main definitions

* `Relaunch.ofArguments`: The parts of a whole command line.
* `Relaunch.hidesFlag`: Whether a flag without a file stands behind the name of a command.
* `Relaunch.Follows`: How the two readings agree.

## Theorems

* `Relaunch.Follows.step`: A step that both readings make.
* `Relaunch.Follows.drop`: A step of the first reading at a flag that was dropped.
* `Relaunch.Follows.repeated`: A flag that was not dropped stops the second reading.
* `Relaunch.Follows.reads`: The run of the second reading.
* `Relaunch.Follows.readFrom_hidden`: Where it stops.
* `Relaunch.parse_words`, `Relaunch.parse_texts_cases`: What the second process reads.
-/

namespace BrokerClient

namespace Relaunch

open Options (Grammar Matches Progress Pending Spec longForm)
open Options.Grammar (Reads)
open CommandLine (grammar calledName start isPlain_grammar ne_nil_of_parse)

/-- The parts of a whole command line. -/
def ofArguments (arguments : List OsText) : Relaunch :=
  let parts := ConfigArguments.split arguments
  create (arguments.headD .empty) (parts.configArguments.drop 1) parts.commandArguments

/-- Whether a flag without a file stands behind a word that is the name of a
    command. -/
def hidesFlag (globals : List OsText) : Bool :=
  (globals.dropWhile fun a => !Command.isName a).any isEmptyFlag

/-! ## Side by side -/

/-- How the second reading agrees with the first one: it waits for a value if
    the first one does, and what the first one settles it settles too. -/
structure Follows (called handoff : String) (p p' : Progress) : Prop where
  trailing : p'.trailing = p.trailing
  isAwaiting : Grammar.isAwaiting p' = Grammar.isAwaiting p
  awaiting : ∀ s, p.pending = .awaiting s →
    p'.pending = .awaiting s ∧ p'.settled = withMarker handoff p.settled ∧ s.long ≠ flagName
  settles : ∀ m, grammar.settle called p = .ok m →
    grammar.settle called p' = .ok (withMarker handoff m)

namespace Follows

variable {called handoff : String} {p p' q : Progress}

/-- When everything is settled in both readings. -/
theorem settled (handoff : String) (m : Matches) (trailing : Bool) :
    Follows called handoff ⟨m, .nothing, trailing⟩ ⟨withMarker handoff m, .nothing, trailing⟩ where
  trailing := rfl
  isAwaiting := rfl
  awaiting := fun _ h => by cases h
  settles := fun _ h => by cases Except.ok.inj h; rfl

theorem commandHere? (h : Follows called handoff p p') (argument : OsText) :
    grammar.commandHere? p' argument = grammar.commandHere? p argument := by
  unfold Grammar.commandHere?
  rw [h.trailing, h.isAwaiting]

/-- Both readings make a step, unless it is at a flag that was dropped. -/
theorem step {argument : OsText} (h : Follows called handoff p p')
    (hkept : isEmptyFlag argument = false) (hdash : argument ≠ OsText.ofString "--")
    (hstep : grammar.step called p argument = .ok q) (hunset : IsUnset q.settled) :
    ∃ q', grammar.step called p' argument = .ok q' ∧ Follows called handoff q q' := by
  have ht : p'.trailing = false := by
    rw [h.trailing]
    exact Bool.eq_false_iff.mpr fun ht => Grammar.step_of_trailing isPlain_grammar ht hstep
  rcases Grammar.step_cases isPlain_grammar hdash hstep with
    ⟨s, inline, hmem, hform, henter, hsteps⟩ | ⟨s, hs, rfl, hsteps⟩
  · have hlong : s.long ≠ flagName := by
      intro hlong
      rw [eq_handoffOption hmem hlong] at henter hform
      rw [hform rfl, isEmptyFlag_of_enter henter hunset] at hkept
      cases hkept
    -- Whatever was pending is settled by both readings before the option is.
    rcases Grammar.exists_settle_of_enter henter with ⟨m, hm⟩
    have hm' := h.settles m hm
    cases hvalues : Grammar.valuesHere s inline with
    | some values =>
      rw [Grammar.enter_settles hm hvalues] at henter
      rcases exists_of_map_eq_ok henter with ⟨m₁, hm₁, rfl⟩
      refine ⟨⟨withMarker handoff m₁, .nothing, p.trailing⟩, hsteps p' ht _ ?_, settled _ _ _⟩
      rw [Grammar.enter_settles hm' hvalues, settleOption_withMarker hlong hm₁, h.trailing]
      rfl
    | none =>
      rw [Grammar.enter_waits hm hvalues] at henter
      rw [← Except.ok.inj henter]
      refine ⟨⟨withMarker handoff m, .awaiting s, p.trailing⟩, hsteps p' ht _ ?_, rfl, rfl, ?_, ?_⟩
      · rw [Grammar.enter_waits hm' hvalues, h.trailing]
      · intro t ht
        cases ht
        exact ⟨rfl, rfl, hlong⟩
      · intro m₁ hm₁
        cases hm₁
  -- The argument is the value that both readings wait for.
  · rcases h.awaiting s hs with ⟨hs', hsettled, hlong⟩
    refine ⟨_, hsteps p' ht hs', h.trailing, rfl, fun t ht => (by cases ht), fun m hm => ?_⟩
    rw [← settleOption_withMarker hlong hm, ← hsettled]
    rfl

theorem exists_of_isEmptyFlag {argument : OsText} (h : isEmptyFlag argument = true) :
    ∃ inline, argument = longForm handoffOption inline ∧
      Grammar.valuesHere handoffOption inline = some [.empty] := by
  rcases (isEmptyFlag_iff argument).mp h with rfl | rfl
  · exact ⟨none, rfl, rfl⟩
  · exact ⟨some .empty, rfl, rfl⟩

/-- What a step at a flag without a file does. -/
theorem exists_of_step_emptyFlag {argument : OsText} (hempty : isEmptyFlag argument = true)
    (hstep : grammar.step called p argument = .ok q) :
    ∃ m m₁, grammar.settle called p = .ok m ∧
      grammar.settleOption called m handoffOption [.empty] = .ok m₁ ∧
      q = ⟨m₁, .nothing, p.trailing⟩ := by
  have ht : p.trailing = false :=
    Bool.eq_false_iff.mpr fun ht => Grammar.step_of_trailing isPlain_grammar ht hstep
  rcases exists_of_isEmptyFlag hempty with ⟨inline, rfl, hvalues⟩
  rw [step_handoffOption ht] at hstep
  rcases Grammar.exists_settle_of_enter hstep with ⟨m, hm⟩
  rw [Grammar.enter_settles hm hvalues] at hstep
  rcases exists_of_map_eq_ok hstep with ⟨m₁, hm₁, rfl⟩
  exact ⟨m, m₁, hm, hm₁, rfl⟩

/-- Where a flag was dropped, only the first reading makes a step. -/
theorem drop {argument : OsText} (h : Follows called handoff p p')
    (hempty : isEmptyFlag argument = true) (hstep : grammar.step called p argument = .ok q) :
    Follows called handoff q p' := by
  rcases exists_of_step_emptyFlag hempty hstep with ⟨m, m₁, hm, hm₁, rfl⟩
  -- The first reading settled what was pending, so it was not waiting for a value.
  have hnotAwaiting : Grammar.isAwaiting p = false := Grammar.isAwaiting_of_settle hm
  refine ⟨h.trailing, h.isAwaiting.trans hnotAwaiting, fun s hs => (by cases hs), fun m₂ hm₂ => ?_⟩
  cases Except.ok.inj hm₂
  rw [withMarker_of_settleOption hm₁]
  exact h.settles m hm

/-- Where it was not dropped, the second reading stops. -/
theorem repeated {argument : OsText} (h : Follows called handoff p p')
    (hempty : isEmptyFlag argument = true) (hstep : grammar.step called p argument = .ok q) :
    grammar.step called p' argument = .error (.repeated handoffOption.shown) := by
  have ht : p'.trailing = false := by
    rw [h.trailing]
    exact Bool.eq_false_iff.mpr fun ht => Grammar.step_of_trailing isPlain_grammar ht hstep
  rcases exists_of_step_emptyFlag hempty hstep with ⟨m, m₁, hm, -, -⟩
  rcases exists_of_isEmptyFlag hempty with ⟨inline, rfl, hvalues⟩
  rw [step_handoffOption ht, Grammar.enter_settles (h.settles m hm) hvalues,
    settleOption_repeated]
  rfl

/-! ## Runs -/

/-- The second reading runs over the arguments that were kept. -/
theorem reads {arguments : List OsText} (h : Follows called handoff p p')
    (hreads : Reads grammar called p arguments q) (ht : q.trailing = false)
    (hunset : IsUnset q.settled) :
    ∃ q', Reads grammar called p' (arguments.filter fun a => !isEmptyFlag a) q' ∧
      Follows called handoff q q' := by
  induction hreads generalizing p' with
  | nil p => exact ⟨p', .nil p', h⟩
  | cons command step reads ih =>
    -- What is settled stays settled, so the token was unset at this step already.
    have hunset₁ := hunset.mono (reads.settled_mono isPlain_grammar)
    have hdash := Grammar.ne_doubleHyphen isPlain_grammar step
      (reads.trailing_eq_false isPlain_grammar ht)
    cases hempty : isEmptyFlag _ with
    | true =>
      rw [List.filter_cons_of_neg (by rw [hempty]; decide)]
      exact ih (h.drop hempty step) ht hunset
    | false =>
      rw [List.filter_cons_of_pos (by rw [hempty]; decide)]
      rcases h.step hempty hdash step hunset₁ with ⟨q₁', hstep', hfollows⟩
      rcases ih hfollows ht hunset with ⟨q', hreads', hfollows'⟩
      exact ⟨q', .cons ((h.commandHere? _).trans command) hstep' hreads', hfollows'⟩

/-- If all arguments were kept, a flag among them stops the second reading. -/
theorem readFrom_hidden {arguments : List OsText} (h : Follows called handoff p p')
    (hreads : Reads grammar called p arguments q) (ht : q.trailing = false)
    (hunset : IsUnset q.settled) (hhidden : arguments.any isEmptyFlag = true)
    (rest : List OsText) :
    grammar.readFrom called p' (arguments ++ rest) = .error (.repeated handoffOption.shown) := by
  induction hreads generalizing p' with
  | nil p => cases hhidden
  | cons command step reads ih =>
    have hunset₁ := hunset.mono (reads.settled_mono isPlain_grammar)
    have hdash := Grammar.ne_doubleHyphen isPlain_grammar step
      (reads.trailing_eq_false isPlain_grammar ht)
    have command' := (h.commandHere? _).trans command
    cases hempty : isEmptyFlag _ with
    -- The marker was settled first, so the option is there for the second time.
    | true => exact Grammar.readFrom_cons_of_error command' (h.repeated hempty step) _
    | false =>
      rw [List.any_cons, hempty, Bool.false_or] at hhidden
      rcases h.step hempty hdash step hunset₁ with ⟨q₁', hstep', hfollows⟩
      rw [List.cons_append, Grammar.readFrom_cons_of_step command' hstep']
      exact ih hfollows ht hunset hhidden

end Follows

/-! ## The whole command line -/

/-- The words of a relaunch are those in front of the first name of a command
    without the dropped flags, and all words from there on. -/
theorem create_append_cons (program : OsText) (configArguments globals payload : List OsText)
    {word : OsText} (hword : Command.isName word = true) :
    (create program configArguments (globals ++ word :: payload)).commandArguments =
      (globals.takeWhile fun a => !Command.isName a).filter (fun a => !isEmptyFlag a) ++
        ((globals.dropWhile fun a => !Command.isName a) ++ word :: payload) := by
  unfold create
  simp only [List.span_eq_takeWhile_dropWhile]
  induction globals with
  | nil =>
    rw [List.nil_append, List.takeWhile_cons_of_neg (by rw [hword]; decide),
      List.dropWhile_cons_of_neg (by rw [hword]; decide)]
    rfl
  | cons a globals ih =>
    rw [List.cons_append]
    cases ha : Command.isName a with
    | true =>
      rw [List.takeWhile_cons_of_neg (by rw [ha]; decide),
        List.dropWhile_cons_of_neg (by rw [ha]; decide),
        List.takeWhile_cons_of_neg (by rw [ha]; decide),
        List.dropWhile_cons_of_neg (by rw [ha]; decide)]
      rfl
    | false =>
      rw [List.takeWhile_cons_of_pos (by rw [ha]; decide),
        List.dropWhile_cons_of_pos (by rw [ha]; decide),
        List.takeWhile_cons_of_pos (by rw [ha]; decide),
        List.dropWhile_cons_of_pos (by rw [ha]; decide), List.filter_cons, List.filter_cons]
      -- In front of the first name of a command every flag without a file is dropped.
      cases hempty : isEmptyFlag a with
      | true => exact ih
      | false => exact congrArg (a :: ·) ih

/-- The reader takes a word for a command only if it is the name of one. -/
theorem isName_of_commandHere? {p : Progress} {word : OsText} {name : String}
    (h : grammar.commandHere? p word = some name) : Command.isName word = true := by
  unfold Grammar.commandHere? at h
  split at h
  · cases h
  · rcases Option.map_eq_some_iff.mp h with ⟨c, hc, -⟩
    have hmem := List.mem_of_find?_eq_some hc
    have hword := List.find?_some hc
    have hnames : grammar.commands.map Prod.fst = Command.names := rfl
    refine List.any_eq_true.mpr ⟨c.1, hnames ▸ List.mem_map_of_mem hmem, ?_⟩
    rw [decide_eq_true_eq] at hword ⊢
    exact hword.symm

theorem ofFlags_eq_unset_iff (path : Option String) (disabled : Bool) :
    HandoffToken.ofFlags path disabled = .unset ↔
      disabled = false ∧ ∀ text, path = some text → text = "" := by
  unfold HandoffToken.ofFlags
  cases disabled with
  | true => simp
  | false =>
    cases path with
    | none => simp
    | some text => by_cases h : text = "" <;> simp [h]

/-- The marker asks for no command. -/
theorem command?_marker (handoff : Path) : grammar.command? (marker handoff) = none := by
  rw [marker_eq_longForm]
  exact CommandLine.command?_longForm _ _

/-- The marker is settled in front of everything else. -/
theorem exists_follows_start (called handoff : String) :
    ∃ p, grammar.commandHere? start (marker (OsText.ofString handoff)) = none ∧
      grammar.step called start (marker (OsText.ofString handoff)) = .ok p ∧
      Follows called handoff start p := by
  have hsettle : grammar.settleOption called .empty handoffOption [OsText.ofString handoff] =
      .ok (withMarker handoff .empty) :=
    Grammar.settleOption_eq_ok_iff.mpr ⟨by decide, rfl, Grammar.checkValues_ofString _ _, rfl⟩
  refine ⟨_, command?_marker (OsText.ofString handoff), ?_, Follows.settled handoff .empty false⟩
  unfold start
  rw [marker_eq_longForm, step_handoffOption rfl,
    Grammar.enter_settles (Grammar.settle_nothing .empty false)
      (rfl : Grammar.valuesHere _ (some (OsText.ofString handoff)) =
        some [OsText.ofString handoff]),
    hsettle]
  rfl

/-- What the second reading has settled in the end is accepted too. -/
theorem finish_of_follows {called handoff : String} {q q' : Progress} {m : Matches}
    (h : Follows called handoff q q') (hm : grammar.settle called q = .ok m)
    (henabled : m.has "no-make-jobserver" = false) :
    grammar.finish called q' = .ok (withMarker handoff m) := by
  have hexcludes : ∀ s ∈ grammar.options, s.excludes.isSome = true →
      s.long = "no-make-jobserver" := by decide
  have hvalid : grammar.validate (withMarker handoff m) = .ok () := by
    refine Grammar.validate_eq_ok isPlain_grammar fun s hs hsome => ?_
    rw [hexcludes s hs hsome, has_withMarker (by decide)]
    exact henabled
  unfold Grammar.finish
  rw [h.settles m hm]
  simp only [bind, Except.bind, hvalid]
  rfl

/-- When the first reading is accepted, the second one is what its flags say:
    if a flag was left in place it is refused, and otherwise it is the first
    one with the handoff file. -/
theorem parse_marker_cons {program : OsText} {arguments : List OsText} {line : CommandLine}
    {command : Command} {handoff : String} (configArguments : List OsText)
    (hparse : CommandLine.parse (program :: arguments) = .ok line)
    (hcommand : line.command = some command)
    (htoken : HandoffToken.ofFlags line.makeJobserver line.noMakeJobserver = .unset) :
    (hidesFlag (CommandLine.globals (program :: arguments)) = false →
      CommandLine.parse (program :: marker (OsText.ofString handoff) ::
          (create program configArguments arguments).commandArguments) =
        .ok { line with makeJobserver := some handoff }) ∧
    (hidesFlag (CommandLine.globals (program :: arguments)) = true →
      CommandLine.parse (program :: marker (OsText.ofString handoff) ::
          (create program configArguments arguments).commandArguments) =
        .error (.repeated handoffOption.shown)) := by
  rcases CommandLine.exists_reads_of_parse hparse hcommand with
    ⟨globals, word, name, payload, q, m, rfl, hreads, hword, hpayload, hfinish, rfl⟩
  rw [CommandLine.globals_of_reads hreads hword,
    create_append_cons _ _ _ _ (isName_of_commandHere? hword)]
  rcases (ofFlags_eq_unset_iff _ _).mp htoken with ⟨hdisabled, hunset⟩
  rcases exists_of_bind_eq_ok hfinish with ⟨m', hm, hm'⟩
  rcases exists_of_bind_eq_ok hm' with ⟨u, hvalid, hm'⟩
  cases Except.ok.inj hm'
  have ht : q.trailing = false := Grammar.trailing_of_commandHere? hword
  have hq : IsUnset q.settled :=
    IsUnset.mono hunset (Grammar.settled_prefix_of_settle isPlain_grammar hm)
  -- The first reading, cut where the dropping of flags ends.
  rw [← List.takeWhile_append_dropWhile (p := fun a => !Command.isName a) (l := globals)] at hreads
  rcases hreads.exists_of_append with ⟨r, hfront, hback⟩
  have htr : r.trailing = false := hback.trailing_eq_false isPlain_grammar ht
  have hr : IsUnset r.settled := hq.mono (hback.settled_mono isPlain_grammar)
  rcases exists_follows_start (calledName program) handoff with ⟨p, hcommand', hstep, hstart⟩
  rcases hstart.reads hfront htr hr with ⟨r', hfront', hfollows⟩
  constructor
  · intro hhidden
    -- With no such flag, dropping changes nothing from the cut on either.
    have hkept : (globals.dropWhile fun a => !Command.isName a).filter (fun a => !isEmptyFlag a) =
        globals.dropWhile fun a => !Command.isName a := by
      refine List.filter_eq_self.mpr fun a ha => ?_
      rw [Bool.eq_false_iff.mpr (List.any_eq_false.mp hhidden a ha)]
      rfl
    rcases hfollows.reads hback ht hq with ⟨q', hback', hfollows'⟩
    rw [hkept] at hback'
    have hword' := (hfollows'.commandHere? word).trans hword
    have hfinish' := finish_of_follows hfollows' hm hdisabled
    have hwhole := CommandLine.parse_of_reads (.cons hcommand' hstep (hfront'.append hback')) hword'
      hpayload hfinish'
    rw [ofMatches_withMarker, List.cons_append, List.append_assoc] at hwhole
    exact hwhole
  · intro hhidden
    refine CommandLine.parse_of_readFrom_error ?_
    rw [Grammar.readFrom_cons_of_step hcommand' hstep, hfront'.readFrom_append]
    exact hfollows.readFrom_hidden hback ht hq hhidden _

/-- The command line of the second process is cut where the one of the first
    process was. -/
theorem split_words {program : OsText} {rest : List OsText} (handoff : Path)
    (hrest : (ConfigArguments.split (program :: rest)).commandArguments ≠ []) :
    ConfigArguments.split ((ofArguments (program :: rest)).words handoff) =
      ⟨(ConfigArguments.split (program :: rest)).configArguments,
        marker handoff :: (ofArguments (program :: rest)).commandArguments⟩ :=
  ConfigArguments.split_append_cons hrest (flag?_marker handoff) _

/-- What the second process reads. It has the configuration of the first one.
    It has its options and its command too, and the handoff file, unless a flag
    was left in place. -/
theorem parse_words {arguments : List OsText} {line : CommandLine} {command : Command}
    (handoff : String)
    (hparse : CommandLine.parse (ConfigArguments.split arguments).withoutConfig = .ok line)
    (hcommand : line.command = some command)
    (htoken : HandoffToken.ofFlags line.makeJobserver line.noMakeJobserver = .unset) :
    let words := (ofArguments arguments).words (OsText.ofString handoff)
    (ConfigArguments.split words).configArguments =
        (ConfigArguments.split arguments).configArguments ∧
      (hidesFlag (CommandLine.globals (ConfigArguments.split arguments).withoutConfig) = false →
        CommandLine.parse (ConfigArguments.split words).withoutConfig =
          .ok { line with makeJobserver := some handoff }) ∧
      (hidesFlag (CommandLine.globals (ConfigArguments.split arguments).withoutConfig) = true →
        CommandLine.parse (ConfigArguments.split words).withoutConfig =
          .error (.repeated handoffOption.shown)) := by
  -- The cut behind the configuration needs something behind it, which the command is.
  rcases ne_nil_of_parse hparse hcommand with ⟨program, rest, rfl, hrest⟩
  intro words
  have hsplit := split_words (OsText.ofString handoff) hrest
  rw [show words = (ofArguments (program :: rest)).words (OsText.ofString handoff) from rfl, hsplit]
  exact ⟨rfl, parse_marker_cons _ hparse hcommand htoken⟩

/-- So the second process reads what the first one has read, or refuses it. -/
theorem parse_texts_cases {arguments : List OsText} {line : CommandLine} {command : Command}
    {handoff : Path} {texts : List String}
    (hparse : CommandLine.parse (ConfigArguments.split arguments).withoutConfig = .ok line)
    (hcommand : line.command = some command)
    (htoken : HandoffToken.ofFlags line.makeJobserver line.noMakeJobserver = .unset)
    (htexts : (ofArguments arguments).commandLine handoff = .ok texts) :
    let again := ConfigArguments.split (texts.map OsText.ofString)
    again.configArguments = (ConfigArguments.split arguments).configArguments ∧
      ∃ path, handoff = OsText.ofString path ∧
        (CommandLine.parse again.withoutConfig = .error (.repeated handoffOption.shown) ∨
          CommandLine.parse again.withoutConfig = .ok { line with makeJobserver := some path }) := by
  intro again
  rcases exists_text_of_commandLine htexts with ⟨path, rfl⟩
  rcases parse_words path hparse hcommand htoken with ⟨hconfig, hkept, hhidden⟩
  rw [commandLine_eq_ok_iff.mp htexts] at hconfig hkept hhidden
  refine ⟨hconfig, path, rfl, ?_⟩
  -- A flag that was left in place makes the second process refuse its command line.
  cases hglobals : hidesFlag (CommandLine.globals
      (ConfigArguments.split arguments).withoutConfig) with
  | true => exact .inl (hhidden hglobals)
  | false => exact .inr (hkept hglobals)

/-- The token of the second process. -/
theorem ofFlags_handoff {path : Option String} {disabled : Bool} {handoff : String}
    (htoken : HandoffToken.ofFlags path disabled = .unset) (hne : handoff ≠ "") :
    HandoffToken.ofFlags (some handoff) disabled = .handoff (OsText.ofString handoff) := by
  rw [((ofFlags_eq_unset_iff _ _).mp htoken).1]
  unfold HandoffToken.ofFlags
  simp [hne]

/-- The second process has the configuration of the first one. It decides the
    same, and takes the handoff file, exactly if no flag without a file stands
    behind a word that is the name of a command. If one does, the second
    process refuses its command line. -/
theorem parse_commandLine {arguments : List OsText} {line : CommandLine} {command : Command}
    {handoff : String} {texts : List String}
    (hparse : CommandLine.parse (ConfigArguments.split arguments).withoutConfig = .ok line)
    (hcommand : line.command = some command)
    (htoken : HandoffToken.ofFlags line.makeJobserver line.noMakeJobserver = .unset)
    (hne : handoff ≠ "")
    (htexts : (ofArguments arguments).commandLine handoff = .ok texts) :
    let again := ConfigArguments.split (texts.map OsText.ofString)
    let globals := CommandLine.globals (ConfigArguments.split arguments).withoutConfig
    again.configArguments = (ConfigArguments.split arguments).configArguments ∧
      (hidesFlag globals = false →
        CommandLine.parse again.withoutConfig = .ok { line with makeJobserver := some handoff } ∧
          HandoffToken.ofFlags (some handoff) line.noMakeJobserver = .handoff handoff) ∧
      (hidesFlag globals = true →
        CommandLine.parse again.withoutConfig =
          .error (.repeated "--make-jobserver[=<PATH>]")) := by
  intro again globals
  rcases parse_words handoff hparse hcommand htoken with ⟨hconfig, hkept, hhidden⟩
  rw [commandLine_eq_ok_iff.mp htexts] at hconfig hkept hhidden
  exact ⟨hconfig, fun h => ⟨hkept h, ofFlags_handoff htoken hne⟩, hhidden⟩

/-- Flags in front of the command are dropped, those that belong to it are
    not, and a configuration flag keeps its value. -/
theorem parse_commandLine_droppedFlag :
    CommandLine.parse (ConfigArguments.split (["tcf", "--state-dir", "/s",
      "--make-jobserver=/tmp/h.mk", "-e", "A=b", "run", "make", "--make-jobserver"].map
        OsText.ofString)).withoutConfig =
      .ok ⟨false, false, some "/tmp/h.mk", false, ["A=b"],
        some (.run ["make", "--make-jobserver"])⟩ := by
  have hparse : CommandLine.parse (ConfigArguments.split ["tcf", "--state-dir", "/s",
      "--make-jobserver=", "-e", "A=b", "run", "make", "--make-jobserver"]).withoutConfig =
      .ok ⟨false, false, some "", false, ["A=b"], some (.run ["make", "--make-jobserver"])⟩ := by
    decide +kernel
  have htexts : (ofArguments ["tcf", "--state-dir", "/s", "--make-jobserver=", "-e", "A=b", "run",
      "make", "--make-jobserver"]).commandLine "/tmp/h.mk" = .ok ["tcf", "--state-dir", "/s",
        "--make-jobserver=/tmp/h.mk", "-e", "A=b", "run", "make", "--make-jobserver"] := by
    decide +kernel
  have hglobals : hidesFlag (CommandLine.globals (ConfigArguments.split ["tcf", "--state-dir", "/s",
      "--make-jobserver=", "-e", "A=b", "run", "make", "--make-jobserver"]).withoutConfig) =
      false := by
    decide +kernel
  have h := parse_commandLine hparse rfl rfl (by decide) htexts
  exact (h.2.1 hglobals).1

/-- The value of an option may be the name of a command. A flag behind it is
    left in place, and the second process refuses to be given it twice. -/
theorem parse_commandLine_hiddenFlag :
    let arguments : List OsText := ["tcf", "-e", "run", "--make-jobserver", "run", "true"]
    let texts := ["tcf", "--make-jobserver=/tmp/h.mk", "-e", "run", "--make-jobserver", "run", "true"]
    CommandLine.parse (ConfigArguments.split arguments).withoutConfig =
        .ok ⟨false, false, some "", false, ["run"], some (.run ["true"])⟩ ∧
      HandoffToken.ofFlags (some "") false = .unset ∧
      (ofArguments arguments).commandLine "/tmp/h.mk" = .ok texts ∧
      CommandLine.parse (ConfigArguments.split (texts.map OsText.ofString)).withoutConfig =
        .error (.repeated "--make-jobserver[=<PATH>]") := by
  decide +kernel

end Relaunch

end BrokerClient
