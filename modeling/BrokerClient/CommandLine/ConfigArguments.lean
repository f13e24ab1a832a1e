import BrokerClient.Text.OsText

/-!
# Configuration Arguments

The flags of the configuration stand in front of everything else. They are cut
off before the rest of the command line is read: as long as arguments are
flags of the configuration, or the value that such a flag takes from the next
argument, they belong to the configuration.

## Main definitions

* `ConfigArguments.flags`: The flags.
* `ConfigArguments`: The two parts of a command line.
* `ConfigArguments.split`: Cuts a command line.
* `ConfigArguments.withoutConfig`: The program with the rest.
-/

namespace BrokerClient

/-- A command line in two parts. The first one is led by the program. -/
structure ConfigArguments where
  configArguments : List OsText
  commandArguments : List OsText
  deriving DecidableEq, Repr

namespace ConfigArguments

/-- The flags of the configuration. -/
def flags : List String :=
  ["--config-path", "--state-dir", "--share-dir", "--servers", "--log-filter", "--log-format",
    "--make-jobs", "--make-program"]

/-- Whether an argument is a flag of the configuration, and if it is, whether
    the next argument is its value. -/
def flag? (argument : OsText) : Option Bool :=
  let text := argument.shownChars
  let name := text.takeWhile (· ≠ '=')
  if flags.any fun f => f.toList = name then some (name.length = text.length) else none

/-- The configuration arguments at the front of a list, and the rest. -/
def spanConfig : List OsText → List OsText × List OsText
  | [] => ([], [])
  | argument :: rest =>
    match flag? argument with
    | none => ([], argument :: rest)
    | some false =>
      let (front, back) := spanConfig rest
      (argument :: front, back)
    | some true =>
      match rest with
      | [] => ([argument], [])
      | value :: rest =>
        let (front, back) := spanConfig rest
        (argument :: value :: front, back)

/-- Cuts a command line. -/
def split : List OsText → ConfigArguments
  | [] => ⟨[], []⟩
  | program :: rest =>
    let (front, back) := spanConfig rest
    ⟨program :: front, back⟩

/-- Where the second part begins in the whole command line. -/
def commandStart (s : ConfigArguments) : Nat := s.configArguments.length

/-- The program with the second part. -/
def withoutConfig (s : ConfigArguments) : List OsText :=
  s.configArguments.take 1 ++ s.commandArguments

/-- Nothing of a command line is lost, and no order is changed. -/
theorem spanConfig_append (arguments : List OsText) :
    (spanConfig arguments).1 ++ (spanConfig arguments).2 = arguments := by
  fun_induction spanConfig arguments <;> simp_all

theorem split_append (arguments : List OsText) :
    (split arguments).configArguments ++ (split arguments).commandArguments = arguments := by
  cases arguments with
  | nil => rfl
  | cons program rest => simp [split, spanConfig_append]

end ConfigArguments

end BrokerClient
