import BrokerClient.Config.Directories

/-!
# Discovery of Configuration Files

The configuration files that an operator may have had in mind, for reports.
They are looked for in the directory for configuration, in the home directory,
in the working directory, under the path in a variable, and under the paths in
the arguments. Neighbours that are the same path are listed once, and only
files are listed.

A process always has a working directory here. One whose working directory was
removed would look in the other places only.

## Main definitions

* `Discovery.argumentPaths`: The paths in the arguments.
* `Discovery.sources`: All paths to look at, in their order.
* `Discovery.candidates`: The same without repetitions.
* `Discovery.files`: The paths that lead to files.
-/

namespace BrokerClient

namespace Discovery

/-- The name of the file in the directory for configuration. -/
def fileName : String := "tcf.toml"

/-- The name of the file in the home and working directories. -/
def hiddenFileName : String := ".tcf.toml"

/-- The variable that holds the path of a file. -/
def pathVariable : String := "TCF_CONFIG_PATH"

/-- The flag that names a file. -/
def pathFlag : String := "--config-path"

/-- The paths that follow the flag, as an argument of their own or behind an
    equals sign. -/
def flagPaths : List OsText → List Path
  | [] => []
  | argument :: rest =>
    let text := argument.shownChars
    let front := pathFlag.toList ++ ['=']
    if text = pathFlag.toList then
      match rest with
      | value :: rest => value :: flagPaths rest
      | [] => []
    else if front.isPrefixOf text then OsText.ofChars (text.drop front.length) :: flagPaths rest
    else flagPaths rest

/-- The paths in the arguments of an invocation, of which the first is the
    program. -/
def argumentPaths (arguments : List OsText) : List Path := flagPaths (arguments.drop 1)

/-- A list without the paths that are the same as the one kept before them. -/
def dropRepeated : List Path → List Path
  | [] => []
  | p :: rest => p :: go p rest
where
  /-- The rest of the list behind a path that is kept. -/
  go (kept : Path) : List Path → List Path
    | [] => []
    | q :: rest => if Path.same kept q then go kept rest else q :: go q rest

/-- The place in the directory for configuration. -/
def configPlace? (m : Machine) : Option Path :=
  (Directories.config? m).map fun directory => Path.join (Path.join directory "tcf") fileName

/-- The place in the home directory. -/
def homePlace? (m : Machine) : Option Path :=
  (Directories.home? m).map fun home => Path.join home hiddenFileName

/-- The place in the working directory. -/
def workPlace (m : Machine) : Path := Path.join (Place.path m.workDirectory) hiddenFileName

/-- The place that the variable names. -/
def variablePlace? (m : Machine) : Option Path := m.environment.nonEmpty? pathVariable

/-- The paths to look at, repetitions included: the file in the directory for configuration,
    those in the home and working directories, the one in the variable, and those in the
    arguments. -/
def sources (m : Machine) (arguments : List OsText) : List Path :=
  (configPlace? m).toList ++ (homePlace? m).toList ++ workPlace m :: (variablePlace? m).toList ++
    argumentPaths arguments

/-- The paths to look at, in their order. -/
def candidates (m : Machine) (arguments : List OsText) : List Path :=
  dropRepeated (sources m arguments)

/-- The paths that lead to files. -/
def files (m : Machine) (arguments : List OsText) : List Path :=
  (candidates m arguments).filter fun p => m.files.isFile m.workDirectory p

end Discovery

end BrokerClient
