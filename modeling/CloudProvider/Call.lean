import CloudProvider.Program
import CloudProvider.Resource.Basic
import CloudProvider.Resource.Request

/-!
# Calls to the backend

Everything that can be asked of a backend, by service: servers, networks, images,
volumes and load balancers. Before a service is called it is opened, which can
fail for reasons of its own.

* `Call.Answer`: what a call is answered with;
* `Call.operation`: the name of a call;
* `Action`: a program that makes these calls.
-/

namespace CloudProvider

/-- A service of the backend. -/
inductive Service where
  | compute
  | network
  | image
  | volume
  | loadBalancer
  deriving DecidableEq, Inhabited

namespace Service

/-- The name of a service. -/
def name : Service → String
  | compute => "compute"
  | network => "network"
  | image => "image"
  | volume => "volume"
  | loadBalancer => "load_balancer"

end Service

/-- A call to the backend. -/
inductive Call where
  | openService (service : Service)
  | createServer (request : ServerRequest)
  | getServer (serverId : String)
  | deleteServer (serverId : String)
  | listAttachments (serverId : String)
  | attachVolume (serverId volumeId device : String)
  | detachVolume (serverId volumeId : String)
  | getFlavor (flavorId : String)
  | matchFlavor (resources : VmResources) (bootFromVolume : Bool)
  | getMetadata (serverId : String)
  | updateMetadata (serverId : String) (metadata : Metadata)
  | deleteMetadata (serverId : String) (keys : List String)
  | renameServer (serverId name : String)
  | rebootServer (serverId : String)
  | getServerZone (serverId : String)
  | resolveNetworks (spec : NetworkSpec) (properties : VmProperties)
  | createPort (network : Network) (securityGroups : List String)
  | getPorts (serverId : String)
  | deletePorts (ports : List Port)
  | configureVip (serverId : String) (network : Network)
  | getSubnet (networkId : String)
  | getImage (imageId : String)
  | createVolume (request : VolumeRequest)
  | getVolume (volumeId : String)
  | deleteVolume (volumeId : String)
  | extendVolume (volumeId : String) (sizeGib : UInt32)
  | setVolumeMetadata (volumeId : String) (metadata : Metadata)
  | createSnapshot (request : SnapshotRequest)
  | getSnapshot (snapshotId : String)
  | deleteSnapshot (snapshotId : String)
  | getPool (name : String)
  /-- The last argument is a time limit in seconds. -/
  | createMember (pool : Pool) (ip : String) (binding : PoolBinding) (subnetId : String)
      (seconds : Nat)
  /-- The last argument is a time limit in seconds. -/
  | deleteMember (poolId memberId : String) (seconds : Nat)
  deriving Inhabited

namespace Call

/-- What a call is answered with. -/
abbrev Answer : Call → Type
  | openService _ => Unit
  | createServer _ => Server
  | getServer _ => Server
  | deleteServer _ => Unit
  | listAttachments _ => List Attachment
  | attachVolume _ _ _ => Attachment
  | detachVolume _ _ => Unit
  | getFlavor _ => Flavor
  | matchFlavor _ _ => Flavor
  | getMetadata _ => Metadata
  | updateMetadata _ _ => Unit
  | deleteMetadata _ _ => Unit
  | renameServer _ _ => Unit
  | rebootServer _ => Unit
  | getServerZone _ => String
  | resolveNetworks _ _ => NetworkConfig
  | createPort _ _ => Port
  | getPorts _ => List Port
  | deletePorts _ => Unit
  | configureVip _ _ => Unit
  | getSubnet _ => String
  | getImage _ => String
  | createVolume _ => Volume
  | getVolume _ => Volume
  | deleteVolume _ => Unit
  | extendVolume _ _ => Unit
  | setVolumeMetadata _ _ => Unit
  | createSnapshot _ => Snapshot
  | getSnapshot _ => Snapshot
  | deleteSnapshot _ => Unit
  | getPool _ => Pool
  | createMember _ _ _ _ _ => PoolMember
  | deleteMember _ _ _ => Unit

/-- The name of a call. -/
def operation : Call → String
  | openService s => s.name
  | createServer _ => "create_server"
  | getServer _ => "get_server"
  | deleteServer _ => "delete_server"
  | listAttachments _ => "list_volume_attachments"
  | attachVolume _ _ _ => "attach_volume"
  | detachVolume _ _ => "detach_volume"
  | getFlavor _ => "get_flavor_by_id"
  | matchFlavor _ _ => "get_matching_flavor"
  | getMetadata _ => "get_metadata"
  | updateMetadata _ _ => "update_server_metadata"
  | deleteMetadata _ _ => "delete_server_metadata"
  | renameServer _ _ => "update_server"
  | rebootServer _ => "reboot_server"
  | getServerZone _ => "get_server_az"
  | resolveNetworks _ _ => "get_network_configuration"
  | createPort _ _ => "create_port"
  | getPorts _ => "get_ports"
  | deletePorts _ => "delete_ports"
  | configureVip _ _ => "configure_vip_network"
  | getSubnet _ => "get_subnet_id"
  | getImage _ => "get_image"
  | createVolume _ => "create_volume"
  | getVolume _ => "get_volume"
  | deleteVolume _ => "delete_volume"
  | extendVolume _ _ => "extend_volume_size"
  | setVolumeMetadata _ _ => "set_volume_metadata"
  | createSnapshot _ => "create_snapshot"
  | getSnapshot _ => "get_snapshot"
  | deleteSnapshot _ => "delete_snapshot"
  | getPool _ => "get_pool"
  | createMember _ _ _ _ _ => "create_pool_member"
  | deleteMember _ _ _ => "delete_pool_member"

/-- What a call is about, in short. -/
def subjects : Call → List String
  | openService _ => []
  | createServer r => [r.name]
  | getServer id => [id]
  | deleteServer id => [id]
  | listAttachments id => [id]
  | attachVolume server volume device => [server, volume, device]
  | detachVolume server volume => [server, volume]
  | getFlavor id => [id]
  | matchFlavor _ _ => []
  | getMetadata id => [id]
  | updateMetadata id _ => [id]
  | deleteMetadata id _ => [id]
  | renameServer id name => [id, name]
  | rebootServer id => [id]
  | getServerZone id => [id]
  | resolveNetworks _ _ => []
  | createPort n _ => [n.name]
  | getPorts id => [id]
  | deletePorts ports => ports.map (·.id)
  | configureVip id n => [id, n.name]
  | getSubnet id => [id]
  | getImage id => [id]
  | createVolume r => [r.name]
  | getVolume id => [id]
  | deleteVolume id => [id]
  | extendVolume id size => [id, toString size.toNat]
  | setVolumeMetadata id _ => [id]
  | createSnapshot r => [r.volumeId]
  | getSnapshot id => [id]
  | deleteSnapshot id => [id]
  | getPool name => [name]
  | createMember pool ip _ _ _ => [pool.id, ip]
  | deleteMember pool member _ => [pool, member]

end Call

/-- A program that makes calls to the backend. -/
abbrev Action (α : Type) := Program Call Call.Answer α

end CloudProvider
