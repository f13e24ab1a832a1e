import BrokerClient.Text.OsText

/-!
# Commands

What an invocation can be asked to do, and the words that ask for it.

## Main definitions

* `Command`: A command with its arguments.
* `Command.name`: The word that asks for it.
* `Command.isName`: Whether an argument is such a word.

## Theorems

* `Command.isName_name`: The name of every command is one of the words.
-/

namespace BrokerClient

/-- What an invocation is asked to do. -/
inductive Command where
  /-- Run a program, given by its words, under the job limit. -/
  | run (words : List OsText)
  /-- Print the cookies of the server that a name leads to. -/
  | cookies (target : String) (asJar : Bool)
  /-- Print the configuration. -/
  | config
  /-- List the servers. -/
  | servers
  /-- Drop the cookies of some servers, or of all. -/
  | logout (servers : List String)
  deriving DecidableEq, Repr

namespace Command

/-- The word that asks for a command. -/
def name : Command → String
  | run _ => "run"
  | cookies _ _ => "cookies"
  | config => "config"
  | servers => "servers"
  | logout _ => "logout"

/-- The words that ask for commands, in the order in which they are listed. -/
def names : List String := ["run", "cookies", "config", "servers", "logout"]

/-- Whether an argument is a word that asks for a command. -/
def isName (argument : OsText) : Bool := names.any fun name => argument = OsText.ofString name

theorem name_mem_names (c : Command) : c.name ∈ names := by
  cases c <;> simp [name, names]

theorem isName_name (c : Command) : isName (OsText.ofString c.name) = true :=
  List.any_eq_true.2 ⟨c.name, name_mem_names c, by simp⟩

end Command

end BrokerClient
