import CloudProvider.Fault.Operation
import CloudProvider.FileTree
import CloudProvider.Wire.Settings

/-!
# Finding the settings

A settings file is looked for at the path that the environment names, in the
working directory, in a hidden directory below it, and in the user's directory for
settings. The first of these that exists is taken, whatever it is; only then is it
read.

* `Surroundings.find`: the path of the settings file;
* `Surroundings.load`: the settings in the file at a path.
-/

namespace CloudProvider

/-- What a search for settings depends on. -/
structure Surroundings where
  files : FileTree
  workingDirectory : String
  home : String
  /-- The path in `STACKCPI_CONFIG_PATH`. -/
  configPath : Option String
  /-- The directory in `XDG_CONFIG_HOME`. -/
  xdgConfigHome : Option String

namespace Surroundings

/-- The name of a settings file. -/
def fileName : String := "cpi.json"

/-- The user's directory for settings; one that does not start at the root is
    passed over. -/
def configDirectory (s : Surroundings) : String :=
  match s.xdgConfigHome with
  | some d => if FileTree.isAbsolute d then d else FileTree.join s.home ".config"
  | none => FileTree.join s.home ".config"

/-- The paths where a settings file may be, the best first. -/
def candidates (s : Surroundings) : List String :=
  s.configPath.toList ++
    [FileTree.join s.workingDirectory fileName,
      FileTree.join (FileTree.join s.workingDirectory ".stackcpi") fileName,
      FileTree.join (FileTree.join s.configDirectory "stackcpi") fileName]

/-- The path of the settings file. -/
def find (s : Surroundings) : Except SettingsError String :=
  -- A directory counts as found; it is only refused when it is read.
  match s.candidates.find? (s.files.exists? s.workingDirectory) with
  | some path => .ok path
  | none => .error .fileNotFound

/-- The settings in the file at a path. -/
def load (s : Surroundings) (path : String) : Except SettingsError Settings :=
  match s.files.read s.workingDirectory path with
  | .error e => .error (.unreadable path e.message)
  | .ok text => Settings.ofText text

/-- The settings in the settings file. -/
def loadFound (s : Surroundings) : Except SettingsError Settings := s.find >>= s.load

/-- The settings in the file at a path, a fault being one of the operation that
    needs them. -/
def settingsFor (s : Surroundings) (path : String) : Except OperationError Settings :=
  (s.load path).mapError .settings

end Surroundings

end CloudProvider
