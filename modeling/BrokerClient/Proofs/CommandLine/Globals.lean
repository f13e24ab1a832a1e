import BrokerClient.CommandLine.Parser
import BrokerClient.Proofs.CommandLine.Partition
import BrokerClient.Proofs.Options.Reader

/-!
# The Parts of a Command Line

A command line has three parts: the flags of the configuration, the options in
front of the command, and the command with what belongs to it. The first cut is
made by `ConfigArguments.split`, the second one by the reader of options. Both
cuts stay where they are when something else is put behind them.

## Main definitions

* `CommandLine.globals`: The options in front of the command.

## Theorems

* `ConfigArguments.flag?_longForm`: Options are no configuration arguments.
* `CommandLine.exists_reads_of_parse`: What an accepted command line with a command consists of.
* `CommandLine.exists_reads_of_parse_none`: One without a command consists of options.
* `CommandLine.parse_of_reads`: What consists of this is accepted.
* `CommandLine.globals_of_reads`: The options in front of the command are those that were read.
-/

namespace BrokerClient

/-! ## The first cut -/

namespace ConfigArguments

/-- The long form of another option is no flag of the configuration. -/
theorem flag?_longForm {s : Options.Spec} (hequals : '=' ∉ s.long.toList)
    (hflags : (flags.any fun f => f.toList = "--".toList ++ s.long.toList) = false)
    (value : OsText) : flag? (Options.longForm s (some value)) = none := by
  have hshown : (Options.longForm s (some value)).shownChars =
      ("--".toList ++ s.long.toList) ++ '=' :: value.shownChars := by
    have hform :
        Options.longForm s (some value) = OsText.ofString ("--" ++ s.long ++ "=") ++ value := by
      rw [OsText.ofString_append, OsText.ofString_append]
      refine congrArg OsText.mk ?_
      rw [OsText.bytes_append, OsText.bytes_append, List.append_assoc]
      rfl
    rw [hform, OsText.shownChars_ofString_append, String.toList_append, String.toList_append,
      List.append_assoc]
    rfl
  have hname : '=' ∉ "--".toList ++ s.long.toList := by
    rw [List.mem_append, not_or]
    exact ⟨by decide, hequals⟩
  rw [flag?_of_shownChars_append hshown hname, if_neg (Bool.eq_false_iff.mp hflags)]

end ConfigArguments

/-! ## The second cut -/

namespace CommandLine

open Options (Grammar Matches Progress)
open Options.Grammar (Reads)

/-- The state of the reader in front of the first argument. -/
def start : Progress := ⟨.empty, .nothing, false⟩

/-- The name that a program is called by in reports. -/
def calledName (program : OsText) : String := (calledAs? program).getD grammar.name

theorem isPlain_grammar : grammar.IsPlain := ⟨rfl, by decide⟩

/-- An option asks for no command. -/
theorem command?_longForm (s : Options.Spec) (inline : Option OsText) :
    grammar.command? (Options.longForm s inline) = none := by
  have hheads : ∀ c ∈ grammar.commands, (OsText.ofString c.1).bytes.head? ≠ some 0x2D := by decide
  unfold Grammar.command?
  refine Option.map_eq_none_iff.mpr (List.find?_eq_none.mpr fun c hc heq => hheads c hc ?_)
  rw [of_decide_eq_true heq]
  rfl

/-- What was read of an accepted command line. -/
theorem exists_of_parse {program : OsText} {arguments : List OsText} {line : CommandLine}
    (h : parse (program :: arguments) = .ok line) :
    ∃ p read m, grammar.read (calledName program) arguments = .ok ⟨p, read⟩ ∧
      read.mapM (fun c => parseCommand (calledAs? program) c.1 c.2) = .ok line.command ∧
      grammar.finish (calledName program) p = .ok m ∧ line = ofMatches m line.command := by
  rcases exists_of_bind_eq_ok h with ⟨⟨p, read⟩, hread, h⟩
  rcases exists_of_bind_eq_ok h with ⟨command, hcommand, h⟩
  rcases exists_of_bind_eq_ok h with ⟨m, hm, h⟩
  cases Except.ok.inj h
  exact ⟨p, read, m, hread, hcommand, hm, rfl⟩

/-- An accepted command line with a command consists of options that are read
    up to the command, and of the command with its arguments. -/
theorem exists_reads_of_parse {program : OsText} {arguments : List OsText} {line : CommandLine}
    {command : Command} (h : parse (program :: arguments) = .ok line)
    (hcommand : line.command = some command) :
    ∃ front word name payload p m, arguments = front ++ word :: payload ∧
      Reads grammar (calledName program) start front p ∧
      grammar.commandHere? p word = some name ∧
      parseCommand (calledAs? program) name payload = .ok command ∧
      grammar.finish (calledName program) p = .ok m ∧ line = ofMatches m (some command) := by
  rcases exists_of_parse h with ⟨p, read, m, hread, hparsed, hm, hline⟩
  rw [hcommand] at hparsed hline
  cases read with
  -- Without a word for a command the line has no command.
  | none => cases Except.ok.inj hparsed
  | some read =>
    rcases read with ⟨name, payload⟩
    rcases exists_of_bind_eq_ok hparsed with ⟨command', hcommand', hsome⟩
    cases Except.ok.inj hsome
    rcases Grammar.exists_reads hread with ⟨front, word, harguments, hreads, hword⟩
    exact ⟨front, word, name, payload, p, m, harguments, hreads, hword, hcommand', hm, hline⟩

/-- An accepted command line without a command consists of options that are read to their
    end. -/
theorem exists_reads_of_parse_none {program : OsText} {options : List OsText} {line : CommandLine}
    (h : parse (program :: options) = .ok line) (hcommand : line.command = none) :
    ∃ p m, Reads grammar (calledName program) start options p ∧
      grammar.finish (calledName program) p = .ok m ∧ line = ofMatches m none := by
  rcases exists_of_parse h with ⟨p, read, m, hread, hparsed, hm, hline⟩
  rw [hcommand] at hparsed hline
  cases read with
  | none => exact ⟨p, m, Grammar.reads_of_command_eq_none hread, hm, hline⟩
  -- A word for a command would have made one.
  | some read =>
    rcases exists_of_bind_eq_ok hparsed with ⟨command, -, hsome⟩
    cases Except.ok.inj hsome

theorem read_of_reads {called : String} {front payload : List OsText} {word : OsText}
    {name : String} {p : Progress} (hreads : Reads grammar called start front p)
    (hword : grammar.commandHere? p word = some name) :
    grammar.read called (front ++ word :: payload) = .ok ⟨p, some (name, payload)⟩ := by
  unfold Grammar.read
  rw [show (⟨.empty, .nothing, false⟩ : Progress) = start from rfl, hreads.readFrom_append,
    Grammar.readFrom_cons_of_command hword]

/-- What consists of these parts is accepted. -/
theorem parse_of_reads {program : OsText} {front payload : List OsText} {word : OsText}
    {name : String} {p : Progress} {m : Matches} {command : Command}
    (hreads : Reads grammar (calledName program) start front p)
    (hword : grammar.commandHere? p word = some name)
    (hcommand : parseCommand (calledAs? program) name payload = .ok command)
    (hfinish : grammar.finish (calledName program) p = .ok m) :
    parse (program :: (front ++ word :: payload)) = .ok (ofMatches m (some command)) := by
  unfold parse
  simp only [List.head?_cons, Option.bind_some, List.drop_succ_cons, List.drop_zero]
  rw [show (calledAs? program).getD grammar.name = calledName program from rfl,
    read_of_reads hreads hword]
  have hparsed : (some (name, payload)).mapM (fun c => parseCommand (calledAs? program) c.1 c.2) =
      .ok (some command) := mapM_some_of_eq_ok hcommand
  simp only [bind, Except.bind, hparsed, hfinish]
  rfl

/-- A command line with a command has more than its configuration. -/
theorem ne_nil_of_parse {arguments : List OsText} {line : CommandLine} {command : Command}
    (hparse : parse (ConfigArguments.split arguments).withoutConfig = .ok line)
    (hcommand : line.command = some command) :
    ∃ program rest, arguments = program :: rest ∧
      (ConfigArguments.split arguments).commandArguments ≠ [] := by
  cases arguments with
  | nil =>
    cases Except.ok.inj hparse
    cases hcommand
  | cons program rest =>
    refine ⟨program, rest, rfl, fun hnil => ?_⟩
    have hparts : (ConfigArguments.split (program :: rest)).withoutConfig = [program] := by
      unfold ConfigArguments.withoutConfig
      rw [hnil]
      rfl
    rw [hparts] at hparse
    rcases exists_reads_of_parse hparse hcommand with ⟨_, _, _, _, _, _, hwords, -⟩
    exact absurd hwords.symm (by simp)

/-- If the options are not read, there is no more to it. -/
theorem parse_of_readFrom_error {program : OsText} {arguments : List OsText} {e : Options.Error}
    (h : grammar.readFrom (calledName program) start arguments = .error e) :
    parse (program :: arguments) = .error e := by
  unfold parse
  simp only [List.head?_cons, Option.bind_some, List.drop_succ_cons, List.drop_zero]
  rw [show (calledAs? program).getD grammar.name = calledName program from rfl]
  unfold Grammar.read
  rw [show (⟨.empty, .nothing, false⟩ : Progress) = start from rfl, h]
  rfl

/-- The options in front of the command, of a command line that is led by the
    program. -/
def globals (arguments : List OsText) : List OsText :=
  let called := (arguments.head?.bind calledAs?).getD grammar.name
  let options := arguments.drop 1
  match grammar.read called options with
  | .ok ⟨_, some (_, payload)⟩ => options.take (options.length - (payload.length + 1))
  | _ => options

theorem globals_of_reads {program : OsText} {front payload : List OsText} {word : OsText}
    {name : String} {p : Progress} (hreads : Reads grammar (calledName program) start front p)
    (hword : grammar.commandHere? p word = some name) :
    globals (program :: (front ++ word :: payload)) = front := by
  unfold globals
  simp only [List.head?_cons, Option.bind_some, List.drop_succ_cons, List.drop_zero]
  rw [show (calledAs? program).getD grammar.name = calledName program from rfl,
    read_of_reads hreads hword]
  simp only [List.length_append, List.length_cons]
  -- The reader says what is left behind the word, so the front is what is missing.
  rw [show front.length + (payload.length + 1) - (payload.length + 1) = front.length by omega]
  exact List.take_left

end CommandLine

end BrokerClient
