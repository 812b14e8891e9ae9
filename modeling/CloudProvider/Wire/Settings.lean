import CloudProvider.Json.Reader
import CloudProvider.Json.Record
import CloudProvider.Settings.Validation

/-!
# Settings on the wire

The JSON form of the properties in a settings file, and the file around them: an
object `cloud` that names its plugin and holds the properties of that plugin.

* `Settings.ofText`: the settings in the text of a file.
-/

namespace CloudProvider

namespace ConfigDrive

/-- The JSON form of a kind of config drive. -/
def toJson (d : ConfigDrive) : Json := .string d.text

/-- Read a kind of config drive. -/
def ofDocument? (d : Document) : Option ConfigDrive := d.choice? named

end ConfigDrive

namespace RetryPolicy

/-- The JSON form of a retry policy. -/
def toJson (p : RetryPolicy) : Json :=
  .object [
    ("max_attempts", .nat p.maxAttempts.toNat),
    ("sleep_duration", .nat p.sleepSeconds.toNat)]

/-- Read a retry policy. -/
def ofDocument? (d : Document) : Option RetryPolicy := do
  let field ← d.record? ["max_attempts", "sleep_duration"]
  return {
    maxAttempts := ← (field "max_attempts").required Document.word32?
    sleepSeconds := ← (field "sleep_duration").required Document.word64? }

end RetryPolicy

namespace RetryPolicies

/-- The JSON form of retry policies. -/
def toJson (p : RetryPolicies) : Json := .ofTable (p.map RetryPolicy.toJson)

/-- Read retry policies. -/
def ofDocument? (d : Document) : Option RetryPolicies := d.table? RetryPolicy.ofDocument?

end RetryPolicies

namespace ConnectionProperties

/-- The JSON form of the properties of a backend. -/
def toJson (p : ConnectionProperties) : Json :=
  .object [
    ("api_key", .optional p.apiKey),
    ("application_credential_id", .optional p.applicationCredentialId),
    ("application_credential_secret", .optional p.applicationCredentialSecret),
    ("auth_url", .optional p.authUrl),
    ("boot_from_volume", .bool p.bootFromVolume),
    ("config_drive", .optional p.configDrive),
    ("default_volume_type", .optional p.defaultVolumeType),
    ("domain", .optional p.domain),
    ("human_readable_vm_names", .bool p.humanReadableVmNames),
    ("ignore_server_availability_zone", .bool p.ignoreServerZone),
    ("poll_interval", .nat p.pollInterval.toNat),
    ("project", .optional p.project),
    ("region", .optional p.region),
    ("retry_config", RetryPolicies.toJson p.retryPolicies),
    ("state_timeout", .nat p.stateTimeout.toNat),
    ("tenant", .optional p.tenant),
    ("username", .optional p.username)]

/-- The names of the properties, in their order. -/
def fieldNames : List String :=
  ["auth_url", "username", "api_key", "tenant", "project", "domain", "region",
    "application_credential_id", "application_credential_secret", "state_timeout",
    "poll_interval", "config_drive", "ignore_server_availability_zone", "default_volume_type",
    "boot_from_volume", "human_readable_vm_names", "retry_config"]

/-- Read the properties of a backend. -/
def ofDocument? (d : Document) : Option ConnectionProperties := do
  let field ← d.record? fieldNames
  return {
    authUrl := ← (field "auth_url").optional Document.text?
    username := ← (field "username").optional Document.text?
    apiKey := ← (field "api_key").optional Document.text?
    tenant := ← (field "tenant").optional Document.text?
    project := ← (field "project").optional Document.text?
    domain := ← (field "domain").optional Document.text?
    region := ← (field "region").optional Document.text?
    applicationCredentialId := ← (field "application_credential_id").optional Document.text?
    applicationCredentialSecret :=
      ← (field "application_credential_secret").optional Document.text?
    stateTimeout := ← (field "state_timeout").defaulted 300 Document.word64?
    pollInterval := ← (field "poll_interval").defaulted 3 Document.word64?
    configDrive := ← (field "config_drive").optional Document.text?
    ignoreServerZone :=
      ← (field "ignore_server_availability_zone").defaulted false Document.flag?
    defaultVolumeType := ← (field "default_volume_type").optional Document.text?
    bootFromVolume := ← (field "boot_from_volume").defaulted false Document.flag?
    humanReadableVmNames := ← (field "human_readable_vm_names").defaulted false Document.flag?
    retryPolicies := ← (field "retry_config").defaulted ∅ RetryPolicies.ofDocument? }

end ConnectionProperties

/-- A settings file: the plugin it names and the properties it holds. -/
structure SettingsFile where
  plugin : String
  properties : ConnectionProperties

namespace SettingsFile

/-- The plugin whose properties this library knows. -/
def knownPlugin : String := "openstack"

/-- Read the properties of all plugins. -/
def propertiesOfDocument? (d : Document) : Option ConnectionProperties := do
  let field ← d.record? ["openstack"]
  (field "openstack").required ConnectionProperties.ofDocument?

/-- Read the object `cloud`. -/
def cloudOfDocument? (d : Document) : Option SettingsFile := do
  let field ← d.record? ["plugin", "properties"]
  return {
    plugin := ← (field "plugin").required Document.text?
    properties := ← (field "properties").required propertiesOfDocument? }

/-- Read a settings file. -/
def ofDocument? (d : Document) : Option SettingsFile := do
  let field ← d.record? ["cloud"]
  (field "cloud").required cloudOfDocument?

end SettingsFile

namespace Settings

/-- The settings in the text of a settings file. -/
def ofText (s : String) : Except SettingsError Settings :=
  match (Document.parse? s).bind SettingsFile.ofDocument? with
  | none => .error .malformed
  | some file =>
    if file.plugin = SettingsFile.knownPlugin then file.properties.validate
    else .error (.unsupportedPlugin file.plugin)

end Settings

end CloudProvider
