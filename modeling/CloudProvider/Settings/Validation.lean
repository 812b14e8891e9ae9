import CloudProvider.Settings.Basic
import CloudProvider.Text.Blank
import CloudProvider.Text.Split

/-!
# Validation of settings

The properties in a settings file are checked before anything is done with them. A
text that is blank counts as missing. The caller is told the first fault in the
order of the checks: the address, the pair of user name and key, the pair of
application credentials, the choice between the pairs, the project, what the third
version of the identity service asks for, the times, the config drive, and the
retry policies.

* `ConnectionProperties.validate`: the settings that properties amount to.
-/

namespace CloudProvider

namespace ConnectionProperties

/-- A text, unless it is missing or blank. -/
def filled? (s : Option String) : Option String := s.filter fun s => ! Text.isBlankText s

/-- Two texts of which both or neither must be filled. -/
def pair (first second : Option String) (firstName secondName : String) :
    Except SettingsError (Option (String × String)) :=
  match filled? first, filled? second with
  | some a, some b => .ok (some (a, b))
  | some _, none => .error (.missingProperty secondName)
  | none, some _ => .error (.missingProperty firstName)
  | none, none => .ok none

/-- The one pair of credentials. -/
def auth (p : ConnectionProperties) : Except SettingsError AuthMethod := do
  let password ← pair p.username p.apiKey "username" "api_key"
  let application ← pair p.applicationCredentialId p.applicationCredentialSecret
    "application_credential_id" "application_credential_secret"
  match password, application with
  | some _, some _ =>
    .error (.conflict <| "username/api_key and " ++
      "application_credential_id/application_credential_secret are mutually exclusive")
  | some (username, apiKey), none => .ok (.password username apiKey)
  | none, some (id, secret) => .ok (.applicationCredential id secret)
  | none, none =>
    .error (.missingProperty <| "username/api_key or " ++
      "application_credential_id/application_credential_secret")

/-- The one name of the project. -/
def projectName (p : ConnectionProperties) : Except SettingsError (Option String) :=
  match filled? p.tenant, filled? p.project with
  | some _, some _ => .error (.conflict "tenant and project are mutually exclusive")
  | some name, none => .ok (some name)
  | none, other => .ok other

/-- Whether an address is that of the third version of the identity service. -/
def isVersion3 (authUrl : String) : Bool :=
  "/v3".toList.isSuffixOf (Text.dropTrailing '/' authUrl.toList)

/-- Refuse a condition. -/
def refuseIf (condition : Bool) (e : SettingsError) : Except SettingsError Unit :=
  if condition then .error e else .ok ()

/-- The credentials that properties amount to. -/
def credentials (p : ConnectionProperties) : Except SettingsError Credentials := do
  let authUrl ← match filled? p.authUrl with
    | some url => .ok url
    | none => .error (.missingProperty "auth_url")
  let auth ← p.auth
  let project ← p.projectName
  let byPassword := match auth with
    | .password _ _ => true
    | _ => false
  -- The third version looks users up in a domain and scopes them to a project.
  if isVersion3 authUrl && byPassword then
    refuseIf (filled? p.domain).isNone (.missingProperty "domain")
    refuseIf project.isNone (.missingProperty "project")
  return {
    authUrl := authUrl
    auth := auth
    project := project
    domain := filled? p.domain
    region := filled? p.region }

/-- The kind of config drive, if there is to be one. -/
def drive (p : ConnectionProperties) : Except SettingsError (Option ConfigDrive) :=
  match p.configDrive with
  | none => .ok none
  | some s => (ConfigDrive.ofText s).map some

/-- The first operation whose policy allows no attempt. -/
def idlePolicy? (p : ConnectionProperties) : Option String :=
  (p.retryPolicies.entries.find? fun e => e.2.maxAttempts = 0).map (·.1)

/-- The settings that properties amount to. -/
def validate (p : ConnectionProperties) : Except SettingsError Settings := do
  let credentials ← p.credentials
  refuseIf (p.stateTimeout = 0) (.invalidProperty "state_timeout" "must be greater than 0")
  refuseIf (p.pollInterval = 0) (.invalidProperty "poll_interval" "must be greater than 0")
  let drive ← p.drive
  match p.idlePolicy? with
  | some name =>
    .error (.invalidProperty "retry_config" <|
      "max_attempts for '" ++ name ++ "' must be at least 1")
  | none =>
    return {
      credentials := credentials
      stateTimeout := p.stateTimeout.toNat
      pollInterval := p.pollInterval.toNat
      configDrive := drive
      ignoreServerZone := p.ignoreServerZone
      defaultVolumeType := p.defaultVolumeType
      bootFromVolume := p.bootFromVolume
      humanReadableVmNames := p.humanReadableVmNames
      retryPolicies := p.retryPolicies }

end ConnectionProperties

end CloudProvider
