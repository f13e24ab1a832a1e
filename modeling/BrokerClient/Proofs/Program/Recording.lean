import BrokerClient.Program.Basic

/-!
# Records of Requests

What a client asks of other programs is told from the records that the machine
keeps. Another program does its work on the machine, but these records are not
part of the world that it can reach. A sealed launcher and a recorded replacer
are arbitrary ones with that taken into account: whatever they do, the records
hold the requests of the client and nothing else.

## Main definitions

* `Launcher.sealed`: A launcher that does not reach the records.
* `Replacer.recorded`: A replacer that does not either, with a record of the request.
-/

namespace BrokerClient

/-- Starts a program that does not reach the records. -/
def Launcher.sealed (launcher : Launcher) : Launcher := fun program arguments m =>
  let (result, after) := (launcher program arguments).run m
  (result, { after with launches := m.launches, replacements := m.replacements })

/-- Takes note of a program, its arguments and the files as they are, and goes
    on as the program, which does not reach the records. -/
def Replacer.recorded (replacer : Replacer) : Replacer := fun program arguments m =>
  let (result, after) := (replacer program arguments).run m
  (result, { after with
    launches := m.launches
    replacements := m.replacements ++ [⟨program, arguments, m.files⟩] })

theorem Replacer.run_recorded (replacer : Replacer) (program : OsText) (arguments : List OsText)
    (m : Machine) :
    (replacer.recorded program arguments).run m =
      (((replacer program arguments).run m).1,
        { ((replacer program arguments).run m).2 with
          launches := m.launches
          replacements := m.replacements ++ [⟨program, arguments, m.files⟩] }) := rfl

end BrokerClient
