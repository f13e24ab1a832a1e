import BrokerClient.Config.Defaults
import BrokerClient.Config.Files
import BrokerClient.Config.Flags
import BrokerClient.Config.Variables

/-!
# Loading the Configuration

The configuration of an invocation: the defaults, over them the layers of a
file, over those the settings in variables, and on top the settings in flags.
All faults are reported, in the order of flags, named file, other files and
values. A file that a flag names must be there. Faults of other files count
only if none of them can be loaded.

## Main definitions

* `Config.LoadFault`: Why the configuration cannot be loaded.
* `Config.baseFile?`: The file that the settings are taken from.
* `Config.load`: The configuration, or the faults.
-/

namespace BrokerClient

namespace Config

/-- Why the configuration cannot be loaded. -/
inductive LoadFault where
  | flags (error : Options.Error)
  | file (fault : FileFault)
  /-- A setting has a value that is not of its kind. -/
  | value
  deriving DecidableEq, Repr

/-- The file that counts, given the path that a flag names, and the faults on
    the way. If the named file cannot be loaded, the other places are tried. -/
def chooseFile (m : Machine) (named : Option Path) : Option BaseFile × List FileFault :=
  let others (p : Option Path) : Option BaseFile × List FileFault :=
    match loadFirst m ((candidates m).filter fun q => some q ≠ p) with
    | (some file, _) => (some file, [])
    | (none, faults) => (none, faults)
  match named with
  | none => others none
  | some p =>
    match loadNamed m p with
    | .ok file => (some file, [])
    | .error fault =>
      -- What the others give is lost, but their faults are reported.
      let (file, faults) := others p
      (file, fault :: faults)

/-- The layers of an invocation from the lowest one up, given the file that
    counts and the flags. -/
def allLayers (m : Machine) (file : Option BaseFile) (flags : Layer) : List Layer :=
  (defaults m).toLayer :: file.elim [] BaseFile.layers ++
    [Variables.settings m.environment, flags]

/-- What the flags of an invocation say, or nothing if they cannot be read, and
    the fault in that case. -/
def readFlags (arguments : List OsText) : Flags × List LoadFault :=
  match Flags.parse arguments with
  | .ok flags => (flags, [])
  | .error e => (Flags.none, [.flags e])

/-- The file that an invocation takes its settings from. -/
def baseFile? (m : Machine) (arguments : List OsText) : Option BaseFile :=
  (chooseFile m (readFlags arguments).1.filePath).1

/-- The configuration of an invocation, given the program and its configuration
    flags, or the faults. -/
def load (m : Machine) (arguments : List OsText) : Except (List LoadFault) Config :=
  let (flags, flagFaults) := readFlags arguments
  let (file, fileFaults) := chooseFile m flags.filePath
  -- The layers are put together after a fault, too, to report wrong values with it.
  let (config, valueFaults) := match ofLayers? (allLayers m file flags.settings) with
    | some config => (config, [])
    | none => (defaults m, [LoadFault.value])
  match flagFaults ++ fileFaults.map LoadFault.file ++ valueFaults with
  | [] => .ok config
  | faults => .error faults

end Config

end BrokerClient
