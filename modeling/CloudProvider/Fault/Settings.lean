/-!
# Faults of the settings

Why settings cannot be used.

* `SettingsError.message`: the text of a fault;
* `SettingsError.chain`: the texts of the faults behind it.
-/

namespace CloudProvider

/-- A fault of the settings. -/
inductive SettingsError where
  /-- No settings file was found. -/
  | fileNotFound
  /-- A file cannot be read. -/
  | unreadable (path reason : String)
  /-- A text is not the JSON form of settings. -/
  | malformed
  | unsupportedPlugin (plugin : String)
  | invalidConfigDrive (text : String)
  | missingProperty (name : String)
  | conflict (properties : String)
  | invalidProperty (name reason : String)
  deriving DecidableEq, Inhabited

namespace SettingsError

/-- The text of a fault. -/
def message : SettingsError → String
  | fileNotFound =>
    "Config file not found. Looked in:\n- ./cpi.json\n- ./.stackcpi/cpi.json\n" ++
      "- ~/.config/stackcpi/cpi.json\nor set STACKCPI_CONFIG_PATH to point at it"
  | unreadable path reason => "Failed to read config file " ++ path ++ ": " ++ reason
  | malformed => "Failed to parse config"
  | unsupportedPlugin plugin =>
    "Unsupported cloud plugin '" ++ plugin ++ "', expected 'openstack'"
  | invalidConfigDrive text =>
    "Invalid config_drive '" ++ text ++ "', must be one of: disk, cdrom"
  | missingProperty name => "Missing required property: " ++ name
  | conflict properties => "Conflicting properties: " ++ properties
  | invalidProperty name reason => "Invalid property " ++ name ++ ": " ++ reason

/-- The texts of the faults behind a fault. -/
def chain : SettingsError → List String
  | unreadable _ reason => [reason]
  | _ => []

end SettingsError

end CloudProvider
