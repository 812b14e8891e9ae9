import CloudProvider.Fault.Settings
import CloudProvider.Retry
import CloudProvider.Wait

/-!
# Settings

What the lifecycle operations need to know about their backend. `Settings` are the
settings after validation, `ConnectionProperties` the ones a file holds. Both hold times
in whole seconds, and no finer ones are modelled.
-/

namespace CloudProvider

/-- How a server sees its config drive. -/
inductive ConfigDrive where
  /-- As a block device, which takes up a device letter. -/
  | disk
  | cdrom
  deriving DecidableEq, Inhabited

namespace ConfigDrive

/-- The name of a kind of config drive. -/
def text : ConfigDrive → String
  | disk => "disk"
  | cdrom => "cdrom"

/-- The kinds by name. -/
def named : List (String × ConfigDrive) := [("disk", disk), ("cdrom", cdrom)]

/-- The kind of a name. -/
def ofText (s : String) : Except SettingsError ConfigDrive :=
  match named.lookup s with
  | some d => .ok d
  | none => .error (.invalidConfigDrive s)

end ConfigDrive

/-- How the backend is told who calls. -/
inductive AuthMethod where
  | none
  | password (username apiKey : String)
  | applicationCredential (id secret : String)
  deriving DecidableEq, Inhabited

/-- Where the backend is and who calls. -/
structure Credentials where
  authUrl : String := ""
  auth : AuthMethod := .none
  project : Option String := none
  domain : Option String := none
  region : Option String := none
  deriving DecidableEq, Inhabited

/-- The settings of the lifecycle operations. Their times are whole numbers of seconds. -/
structure Settings where
  credentials : Credentials := {}
  /-- How many seconds to wait for a status. -/
  stateTimeout : Nat := 300
  /-- How many seconds lie between two looks at a status. -/
  pollInterval : Nat := 3
  configDrive : Option ConfigDrive := none
  /-- Whether disks are created without regard to the zone of their server. -/
  ignoreServerZone : Bool := false
  defaultVolumeType : Option String := none
  bootFromVolume : Bool := false
  /-- Whether servers are renamed after their jobs. -/
  humanReadableVmNames : Bool := false
  retryPolicies : RetryPolicies := ∅
  deriving DecidableEq, Inhabited

namespace Settings

/-- The wait for a status. -/
def wait (s : Settings) : Wait := ⟨1000 * s.stateTimeout, 1000 * s.pollInterval⟩

end Settings

/-- The properties of a backend as a settings file holds them. -/
structure ConnectionProperties where
  authUrl : Option String := none
  username : Option String := none
  apiKey : Option String := none
  tenant : Option String := none
  project : Option String := none
  domain : Option String := none
  region : Option String := none
  applicationCredentialId : Option String := none
  applicationCredentialSecret : Option String := none
  stateTimeout : UInt64 := 300
  pollInterval : UInt64 := 3
  configDrive : Option String := none
  ignoreServerZone : Bool := false
  defaultVolumeType : Option String := none
  bootFromVolume : Bool := false
  humanReadableVmNames : Bool := false
  retryPolicies : RetryPolicies := ∅
  deriving DecidableEq, Inhabited

end CloudProvider
