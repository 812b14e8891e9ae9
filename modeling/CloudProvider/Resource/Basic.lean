import CloudProvider.Resource.Status
import CloudProvider.Table

/-!
# Resources

What a cloud backend holds for its users, as it reports them. Every value is an
observation made at one moment; none of them changes by itself.
-/

namespace CloudProvider

/-- Texts stored under names on a server, a volume or a snapshot. -/
abbrev Metadata := Table String

/-- A server. -/
structure Server where
  id : String
  name : String
  status : ServerStatus
  /-- The flavor the server was booted with. -/
  flavorId : String
  metadata : Metadata
  zone : Option String
  deriving DecidableEq, Inhabited

/-- The place of a volume in a server. -/
structure Attachment where
  volumeId : String
  serverId : String
  /-- The device path that the backend chose. -/
  device : String
  deriving DecidableEq, Inhabited

/-- A volume of block storage. -/
structure Volume where
  id : String
  name : String
  sizeGib : UInt32
  status : VolumeStatus
  attachments : List Attachment
  metadata : Metadata
  zone : Option String
  deriving DecidableEq, Inhabited

namespace Volume

/-- The first attachment to a server. -/
def attachmentTo? (v : Volume) (serverId : String) : Option Attachment :=
  v.attachments.find? (·.serverId = serverId)

/-- The first attachment to any other server. -/
def attachmentElsewhere? (v : Volume) (serverId : String) : Option Attachment :=
  v.attachments.find? (·.serverId ≠ serverId)

/-- The device paths of all attachments. -/
def devicePaths (v : Volume) : List String := v.attachments.map (·.device)

end Volume

/-- A snapshot of a volume. -/
structure Snapshot where
  id : String
  name : String
  volumeId : String
  status : SnapshotStatus
  description : String
  metadata : Metadata
  deriving DecidableEq, Inhabited

/-- A size of server that the backend offers. -/
structure Flavor where
  id : String
  name : String
  vcpus : UInt32
  ramMib : UInt32
  /-- The size of the root disk. -/
  diskGib : UInt32
  /-- The size of the ephemeral disk, zero if there is none. -/
  ephemeralGib : UInt32
  /-- The size of the swap disk, zero if there is none. -/
  swapMib : UInt32
  deriving DecidableEq, Inhabited

namespace Flavor

/-- Whether servers of this flavor have an ephemeral disk. -/
def hasEphemeralDisk (f : Flavor) : Bool := 0 < f.ephemeralGib

/-- Whether servers of this flavor have a swap disk. -/
def hasSwapDisk (f : Flavor) : Bool := 0 < f.swapMib

end Flavor

/-- A port of a network. -/
structure Port where
  id : String
  networkId : String
  ipAddress : Option String
  macAddress : Option String
  deriving DecidableEq, Inhabited

/-- A pool of a load balancer. -/
structure Pool where
  id : String
  name : String
  deriving DecidableEq, Inhabited

/-- An address that takes part in a pool. -/
structure PoolMember where
  id : String
  poolId : String
  address : String
  protocolPort : UInt16
  deriving DecidableEq, Inhabited

end CloudProvider
