import CloudProvider.Json.Basic
import CloudProvider.Resource.Network

/-!
# Requests

What a caller asks of the lifecycle operations, and what these ask of the backend
in turn.
-/

namespace CloudProvider

/-- The pool of a load balancer that a server is to take part in. -/
structure PoolBinding where
  name : String
  port : UInt16
  monitoringPort : Option UInt16
  deriving DecidableEq, Inhabited

/-- The root disk of a server that boots from a volume. -/
structure RootDisk where
  sizeGib : UInt32
  deriving DecidableEq, Inhabited

/-- Where and how a server is to run. -/
structure VmProperties where
  /-- The name of a flavor. -/
  instanceType : String := ""
  zone : Option String := none
  /-- Zones of which one is picked; if there are any, they win over `zone`. -/
  zones : List String := []
  pools : List PoolBinding := []
  bootFromVolume : Option Bool := none
  rootDisk : Option RootDisk := none
  keyName : Option String := none
  deriving DecidableEq, Inhabited

/-- What kind of volume a disk is to be. -/
structure DiskProperties where
  volumeType : Option String := none
  deriving DecidableEq, Inhabited

/-- What a server has to offer at least. -/
structure VmResources where
  cpu : UInt32
  ramMib : UInt32
  ephemeralDiskMib : UInt32
  deriving DecidableEq, Inhabited

/-- A caller's request for a server. -/
structure VmRequest where
  agentId : String
  stemcellId : String
  properties : VmProperties
  networks : NetworkSpec
  /-- Disks the server should be placed near. -/
  diskIds : List String
  /-- Handed on to the agent as it is. -/
  environment : Json
  deriving Inhabited

/-- The backend's instructions for a server. -/
structure ServerRequest where
  name : String
  imageId : String
  properties : VmProperties
  zone : Option String
  networks : NetworkConfig
  diskIds : List String
  agentId : String
  environment : Json
  configDrive : Bool
  deriving Inhabited

/-- The backend's instructions for a volume. -/
structure VolumeRequest where
  name : String
  sizeGib : UInt32
  volumeType : Option String
  zone : Option String
  deriving DecidableEq, Inhabited

/-- The backend's instructions for a snapshot. -/
structure SnapshotRequest where
  volumeId : String
  /-- Whether a volume in use may be taken as it is. -/
  force : Bool
  name : String
  description : String
  metadata : Table String
  deriving DecidableEq, Inhabited

/-- The server that a request led to. -/
structure CreatedVm where
  vmId : String
  /-- The networks with the ports created for them. -/
  networks : NetworkConfig
  deriving DecidableEq, Inhabited

/-- The properties that meet some resource demands. -/
structure CalculatedVmProperties where
  instanceType : String
  rootDisk : Option RootDisk
  deriving DecidableEq, Inhabited

/-- Where an attached disk shows up in its server. -/
structure DiskHint where
  path : String
  deriving DecidableEq, Inhabited

/-- What this library can do for its callers. -/
structure Info where
  stemcellFormats : List String
  apiVersion : UInt32
  deriving DecidableEq, Inhabited

end CloudProvider
