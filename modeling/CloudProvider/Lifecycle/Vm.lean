import CloudProvider.Lifecycle.Disk
import CloudProvider.Membership
import CloudProvider.Metadata

/-!
# Servers

The life of a server: it is created with its ports and its places in the pools of
load balancers, maintained, and deleted with all of these.

* `createVm`: create a server; what a failed attempt has created by then is cleaned
  up (`unwind`), and the caller is told the fault that made it fail;
* `deleteVm`: delete a server; whatever does not exist is deleted already;
* `hasVm`, `setVmMetadata`, `rebootVm`: an existing server;
* `calculateVmProperties`: the flavor that meets some resource demands.
-/

namespace CloudProvider.Lifecycle

open Operation

/-! ## Creation -/

/-- What an attempt to create a server has created so far. -/
structure Trail where
  ports : List Port := []
  serverId : Option String := none
  deriving DecidableEq, Inhabited

/-- An operation that leaves a trail, also when it stops with a fault. -/
abbrev Provision (α : Type) :=
  ExceptT OperationError (StateT Trail (Program Call Call.Answer)) α

namespace Provision

/-- An operation that creates nothing to clean up. -/
def ofOperation {α : Type} (p : Operation α) : Provision α := ExceptT.mk (StateT.lift p.run)

/-- Remember a port. -/
def trackPort (port : Port) : Provision Unit :=
  modify fun t => { t with ports := t.ports ++ [port] }

/-- Remember the server. -/
def trackServer (serverId : String) : Provision Unit :=
  modify fun t => { t with serverId := some serverId }

end Provision

open Provision

/-- The zone of a new server: one of several, if there are any. -/
def chooseZone (properties : VmProperties) (draw : Nat) : Option String :=
  properties.zones[draw % properties.zones.length]?.or properties.zone

/-- Create a port on each of some networks and record it. -/
def createPorts (settings : Settings) (securityGroups : List String) :
    List Network → NetworkConfig → Provision NetworkConfig
  | [], config => pure config
  | network :: rest, config => do
    let port ← ofOperation <|
      askRepeatedly settings "create_port" (.createPort network securityGroups)
        ("Failed to create port on network '" ++ network.name ++ "'")
    trackPort port
    createPorts settings securityGroups rest (config.assignPort network.name port.id)

/-- Add an address to each of some pools. -/
def joinPools (settings : Settings) (network : Network) (ip : String) :
    List PoolBinding → Operation (List Membership)
  | [] => pure []
  | binding :: rest => do
    let pool ← ask (.getPool binding.name)
      ("Failed to get load balancer pool '" ++ binding.name ++ "'")
    let subnetId ← ask (.getSubnet network.netId)
      ("Failed to get subnet of network '" ++ network.netId ++ "'")
    let member ← askRepeatedly settings "create_pool_member"
      (.createMember pool ip binding subnetId settings.stateTimeout)
      ("Failed to add " ++ ip ++ ":" ++ toString binding.port.toNat ++ " to pool '" ++
        binding.name ++ "'")
    let others ← joinPools settings network ip rest
    return ⟨pool.id, member.id⟩ :: others

/-- Add the address of a server to the pools it is bound to. -/
def registerMembers (settings : Settings) (config : NetworkConfig) (properties : VmProperties) :
    Operation (List Membership) :=
  if properties.pools.isEmpty then pure []
  else
    match config.defaultNetwork.ip with
    | some ip => joinPools settings config.defaultNetwork ip properties.pools
    | none =>
      throw <| .validation <|
        "Network '" ++ config.defaultNetwork.name ++
          "' has no IP to register in load balancer pools"

/-- Give a server its floating address, if it is to have one. -/
def configureFloating (serverId : String) (config : NetworkConfig) : Operation Unit :=
  match config.vipNetwork with
  | some vip =>
    ask (.configureVip serverId vip)
      ("Failed to configure VIP network for server '" ++ serverId ++ "'")
  | none => pure ()

/-- Remember on a server the pools it takes part in. -/
def tagMemberships (serverId : String) (memberships : List Membership) : Operation Unit :=
  if memberships.isEmpty then pure ()
  else
    ask (.updateMetadata serverId (Membership.tags memberships))
      ("Failed to tag server '" ++ serverId ++ "' with pool memberships")

/-- The instructions for a new server. -/
def serverRequest (settings : Settings) (chance : Chance) (request : VmRequest)
    (imageId : String) (config : NetworkConfig) : ServerRequest where
  name := "vm-" ++ chance.token
  imageId := imageId
  properties := request.properties
  zone := chooseZone request.properties chance.draw
  networks := config
  diskIds := request.diskIds
  agentId := request.agentId
  environment := request.environment
  configDrive := settings.configDrive.isSome

/-- Create the ports and the server, and connect the server to everything else. -/
def provision (settings : Settings) (chance : Chance) (request : VmRequest) (imageId : String)
    (config : NetworkConfig) : Provision CreatedVm := do
  -- The server is created on ports that exist already.
  let config ← createPorts settings config.securityGroups config.manualNetworks config
  let instructions := serverRequest settings chance request imageId config
  let server ← ofOperation <|
    ask (.createServer instructions) ("Failed to create server '" ++ instructions.name ++ "'")
  trackServer server.id
  ofOperation (configureFloating server.id config)
  let memberships ← ofOperation (registerMembers settings config request.properties)
  ofOperation (tagMemberships server.id memberships)
  return ⟨server.id, config⟩

/-- Delete what a failed attempt has created: the ports and then the server. A
    failure to do so changes nothing for the caller. -/
def unwind (trail : Trail) : Operation Unit := do
  if ! trail.ports.isEmpty then
    let _ ← attempt (.deletePorts trail.ports)
  match trail.serverId with
  | some serverId =>
    let _ ← attempt (.deleteServer serverId)
  | none => return ()

/-- Create a server. -/
def createVm (settings : Settings) (chance : Chance) (request : VmRequest) :
    Operation CreatedVm := do
  openCompute
  openNetwork
  openLoadBalancer
  openImage
  let imageId ← ask (.getImage request.stemcellId)
    ("Failed to resolve stemcell '" ++ request.stemcellId ++ "'")
  let config ← ask (.resolveNetworks request.networks request.properties)
    ("Failed to resolve networks for agent '" ++ request.agentId ++ "'")
  let (result, trail) ← ofAction ((provision settings chance request imageId config).run.run {})
  match result with
  | .ok vm => return vm
  | .error e =>
    -- Whatever comes of the clean-up, the caller is told what went wrong before.
    unwind trail
    throw e

/-! ## Deletion -/

/-- The ports of a server; if they cannot be listed, there are none to delete. -/
def portsOf (vmId : String) : Operation (List Port) := do
  match ← attempt (.getPorts vmId) with
  | .ok ports => return ports
  | .error _ => return []

/-- The metadata of a server; one that does not exist has none. -/
def metadataOf (vmId : String) : Operation Metadata := do
  match ← attempt (.getMetadata vmId) with
  | .ok metadata => return metadata
  | .error e =>
    if e.isNotFound then return ∅
    else throw (.cloud ("Failed to get metadata of VM '" ++ vmId ++ "'") e)

/-- Take a server out of each of its pools. -/
def leavePools (settings : Settings) (vmId : String) :
    List (String × Membership) → Operation Unit
  | [] => pure ()
  | (name, m) :: rest => do
    match ← attemptRepeatedly settings "delete_pool_member"
      (.deleteMember m.poolId m.memberId settings.stateTimeout) with
    | .ok () => leavePools settings vmId rest
    | .error e =>
      if e.isNotFound then leavePools settings vmId rest
      else
        throw <| .cloud
          ("Failed to delete pool member '" ++ m.tag ++ "' (" ++ name ++ ") of VM '" ++ vmId ++
            "'") e

/-- Delete the server itself. -/
def deleteServer (vmId : String) : Operation Unit := do
  match ← attempt (.deleteServer vmId) with
  | .ok () => return ()
  | .error e =>
    if e.isNotFound then return ()
    else throw (.cloud ("Failed to delete VM '" ++ vmId ++ "'") e)

/-- Delete some ports, if there are any. -/
def deletePorts (vmId : String) (ports : List Port) : Operation Unit :=
  if ports.isEmpty then pure ()
  else ask (.deletePorts ports) ("Failed to delete ports of VM '" ++ vmId ++ "'")

/-- Delete a server, its places in pools and its ports. -/
def deleteVm (settings : Settings) (vmId : String) : Operation Unit := do
  openCompute
  openNetwork
  openLoadBalancer
  let ports ← portsOf vmId
  let metadata ← metadataOf vmId
  -- A malformed tag stops the operation before anything is deleted.
  let memberships ← ExceptT.mk (.done (Membership.ofMetadata vmId metadata))
  leavePools settings vmId memberships
  deleteServer vmId
  deletePorts vmId ports

/-! ## Maintenance -/

/-- Whether a server exists. -/
def hasVm (vmId : String) : Operation Bool := do
  openCompute
  match ← attempt (.getServer vmId) with
  | .ok server => return ! server.status.isGone
  | .error e =>
    if e.isNotFound then return false
    else throw (.cloud ("Failed to get VM '" ++ vmId ++ "'") e)

/-- Store metadata on a server. -/
def storeMetadata (vmId : String) (metadata : Metadata) : Operation Unit :=
  if metadata.isEmpty then pure ()
  else ask (.updateMetadata vmId metadata) ("Failed to set metadata of VM '" ++ vmId ++ "'")

/-- Rename a server after its metadata, if the settings ask for it. -/
def renameAfter (settings : Settings) (vmId : String) (metadata : Metadata) : Operation Unit :=
  if settings.humanReadableVmNames then
    match metadata.serverName? with
    | some name =>
      ask (.renameServer vmId name)
        ("Failed to rename VM '" ++ vmId ++ "' to '" ++ name ++ "'")
    | none => pure ()
  else pure ()

/-- Store a caller's metadata on a server and rename it after them. -/
def setVmMetadata (settings : Settings) (vmId : String) (metadata : CallerMetadata) :
    Operation Unit := do
  openCompute
  let _ ← askFor (.getServer vmId) "VM" vmId
  let texts := metadata.toMetadata
  storeMetadata vmId texts
  renameAfter settings vmId texts

/-- The status of a server that a fetch reports. -/
def serverStatus : Except CloudError Server → Except CloudError ServerStatus
  | .ok s => .ok s.status
  | .error e => .error e

/-- Reboot a server and wait for it to come back. -/
def rebootVm (settings : Settings) (vmId : String) : Operation Unit := do
  openCompute
  let _ ← askFor (.getServer vmId) "VM" vmId
  askRepeatedly settings "reboot_server" (.rebootServer vmId)
    ("Failed to reboot VM '" ++ vmId ++ "'")
  ofOutcome
    (CloudError.inContext ("VM '" ++ vmId ++ "' did not come back after reboot"))
    (settings.wait.awaitStatus ("server " ++ vmId) ServerStatus.text .active (.getServer vmId)
      serverStatus)

/-! ## Flavors -/

/-- What a boot volume holds besides the ephemeral disk, in GiB. -/
def rootDiskOverheadGib : UInt32 := 3

/-- The properties of a server that meets some resource demands. -/
def calculateVmProperties (settings : Settings) (resources : VmResources) :
    Operation CalculatedVmProperties := do
  openCompute
  let flavor ← ask (.matchFlavor resources settings.bootFromVolume)
    ("Failed to find a flavor with " ++ toString resources.cpu.toNat ++ " CPU, " ++
      toString resources.ramMib.toNat ++ " MiB RAM, " ++
      toString resources.ephemeralDiskMib.toNat ++ " MiB ephemeral disk")
  return {
    instanceType := flavor.name
    rootDisk :=
      if settings.bootFromVolume then
        some ⟨gibFor resources.ephemeralDiskMib + rootDiskOverheadGib⟩
      else none }

/-! ## The library itself -/

/-- The version of the contract with callers. -/
def apiVersion : UInt32 := 2

/-- The formats of images that servers can boot. -/
def stemcellFormats : List String := ["openstack-raw", "openstack-qcow2", "openstack-light"]

/-- What this library can do. -/
def info : Info := ⟨stemcellFormats, apiVersion⟩

end CloudProvider.Lifecycle
