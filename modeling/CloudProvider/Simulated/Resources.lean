import CloudProvider.Call
import CloudProvider.Text.Split

/-!
# Simulated resources

A backend that holds its resources in tables. Every change happens at once: an
attached volume is in use as soon as the call to attach it returns. A call answers
with the resources it leaves, or with a fault and nothing else, so a call that
fails cannot have changed anything.

* `Resources.answer`: the answer to a call;
* `NetworkSpec.resolve`: the networks that a request amounts to.
-/

namespace CloudProvider

/-! ## Networks -/

namespace NetworkSpec

/-- Whether a network is to carry the default gateway. -/
def isGateway (s : NetworkSettings) : Bool := s.defaultFor.contains "gateway"

/-- A requested network, resolved. -/
def resolveEntry (e : String × NetworkSettings) : Network where
  name := e.1
  kind := e.2.kind
  netId := e.2.properties.netId.getD ""
  ip := e.2.ip
  portId := none

/-- The requested networks but those for floating addresses, by name. -/
def fixed (s : NetworkSpec) : List (String × NetworkSettings) :=
  s.entries.filter (·.2.kind ≠ .vip)

/-- The networks that a request amounts to. The first network for the gateway is
    the default one, or else the first network of all. -/
def resolve (s : NetworkSpec) : Except CloudError NetworkConfig :=
  match (fixed s).find? (isGateway ·.2) <|> (fixed s).head? with
  | none => .error (.invalidArgument "no default network")
  | some e =>
    .ok {
      defaultNetwork := resolveEntry e
      manualNetworks := ((fixed s).filter (·.2.kind = .manual)).map resolveEntry
      vipNetwork := (s.entries.filter (·.2.kind = .vip)).getLast?.map resolveEntry
      securityGroups := (s.entries.flatMap (·.2.properties.securityGroups)).eraseDups }

end NetworkSpec

/-! ## Flavors -/

namespace Flavor

/-- Whether a flavor meets some resource demands. -/
def meets (f : Flavor) (r : VmResources) (bootFromVolume : Bool) : Bool :=
  r.cpu ≤ f.vcpus && r.ramMib ≤ f.ramMib &&
    (bootFromVolume || r.ephemeralDiskMib.toNat ≤ f.ephemeralGib.toNat * 1024)

/-- Whether a flavor is smaller than another: in processors, then in memory, then in
    ephemeral disk. -/
def smaller (f g : Flavor) : Bool :=
  f.vcpus < g.vcpus || f.vcpus = g.vcpus &&
    (f.ramMib < g.ramMib || f.ramMib = g.ramMib && f.ephemeralGib < g.ephemeralGib)

/-- The first of the smallest flavors. -/
def smallest? : List Flavor → Option Flavor
  | [] => none
  | f :: rest =>
    match smallest? rest with
    | none => some f
    | some g => if g.smaller f then some g else some f

end Flavor

/-! ## Resources -/

/-- What a simulated backend holds. -/
structure Resources where
  servers : Table Server := ∅
  volumes : Table Volume := ∅
  snapshots : Table Snapshot := ∅
  flavors : List Flavor := []
  images : Table Unit := ∅
  ports : Table Port := ∅
  /-- The ports of every server created with ports. -/
  serverPorts : Table (List String) := ∅
  pools : Table Pool := ∅
  members : Table PoolMember := ∅
  /-- The statuses that volumes report, whatever happens to them. -/
  pinnedStatuses : Table VolumeStatus := ∅
  /-- The devices that volumes are attached as, whatever is asked for. -/
  reportedDevices : Table String := ∅
  /-- How many ids have been given out. -/
  issued : Nat := 0
  deriving DecidableEq, Inhabited

namespace Resources

/-- The zone of servers that ask for none. -/
def standardZone : String := "nova"

/-- An answer, and the resources after it. -/
abbrev After (α : Type) := α × Resources

/-- The next id to be given out to a resource of some kind. -/
def nextId (s : Resources) (kind : String) : String := kind ++ "-" ++ toString (s.issued + 1)

/-- An id that may be given out later to a resource of some kind. -/
def Unissued (s : Resources) (kind id : String) : Prop :=
  ∃ n, s.issued < n ∧ id = kind ++ "-" ++ toString n

theorem unissued_nextId (s : Resources) (kind : String) : s.Unissued kind (s.nextId kind) :=
  ⟨s.issued + 1, Nat.lt_succ_self _, rfl⟩

theorem Unissued.mono {s s' : Resources} {kind id : String} (h : s'.Unissued kind id)
    (hle : s.issued ≤ s'.issued) : s.Unissued kind id := by
  obtain ⟨n, hn, hid⟩ := h
  exact ⟨n, Nat.lt_of_le_of_lt hle hn, hid⟩

/-- An id that has been given out is not given out again. -/
theorem not_unissued_nextId {s s' : Resources} {kind : String} (h : s.issued < s'.issued) :
    ¬ s'.Unissued kind (s.nextId kind) := by
  rintro ⟨n, hn, hid⟩
  have heq := Text.append_toString_injective hid
  omega

theorem Unissued.prefix_id {s : Resources} {kind id : String} (h : s.Unissued kind id) :
    (kind ++ "-").toList <+: id.toList := by
  obtain ⟨n, -, rfl⟩ := h
  rw [String.toList_append (s := kind ++ "-")]
  exact List.prefix_append _ _

/-- Look a resource up. -/
def find {α : Type} (t : Table α) (kind id : String) : Except CloudError α :=
  match t.get? id with
  | some a => .ok a
  | none => .error (.notFound kind id)

theorem find_ok {α : Type} {t : Table α} {kind id : String} {a : α}
    (h : find t kind id = .ok a) : t.get? id = some a := by
  unfold find at h
  split at h
  · cases h
    assumption
  · cases h

theorem find_bind_ok {α β : Type} {t : Table α} {kind id : String} {f : α → Except CloudError β}
    {b : β} (h : (find t kind id >>= f) = .ok b) : ∃ a, t.get? id = some a ∧ f a = .ok b := by
  unfold find at h
  split at h
  · rename_i a hget
    exact ⟨a, hget, h⟩
  · cases h

/-- An answer that leaves the resources as they are. -/
def unchanged {α : Type} (s : Resources) (r : Except CloudError α) : Except CloudError (After α) :=
  r.map fun a => (a, s)

theorem unchanged_ok {α : Type} {s s' : Resources} {r : Except CloudError α} {a : α}
    (h : s.unchanged r = .ok (a, s')) : r = .ok a ∧ s' = s := by
  cases r with
  | error e => cases h
  | ok a => cases h; exact ⟨rfl, rfl⟩

/-! ### Servers -/

/-- Create a server; its flavor is the first of the name asked for, or that name
    itself if there is none. -/
def createServer (r : ServerRequest) (s : Resources) : Except CloudError (After Server) :=
  let id := s.nextId "server"
  let server : Server := {
    id := id
    name := r.name
    status := .active
    flavorId :=
      ((s.flavors.find? (·.name = r.properties.instanceType)).map (·.id)).getD
        r.properties.instanceType
    metadata := ∅
    zone := r.zone.or (some standardZone) }
  .ok (server,
    { s with
      issued := s.issued + 1
      servers := s.servers.insert id server
      serverPorts := s.serverPorts.insert id r.networks.portIds })

/-- Look a server up. -/
def getServer (id : String) (s : Resources) : Except CloudError (After Server) :=
  s.unchanged (find s.servers "server" id)

/-- A volume after a server is gone: without attachments to it, and available if it
    was in use and nothing holds it any more. -/
def releaseFrom (serverId : String) (v : Volume) : Volume :=
  let attachments := v.attachments.filter (·.serverId ≠ serverId)
  { v with
    attachments := attachments
    status := if attachments.isEmpty && v.status = .inUse then .available else v.status }

/-- A volume that was not attached to the server stays as it is. -/
theorem releaseFrom_eq_self {serverId : String} {v : Volume}
    (hattachments : ∀ a ∈ v.attachments, a.serverId ≠ serverId)
    (hstatus : v.status = .inUse → v.attachments ≠ []) : releaseFrom serverId v = v := by
  have hkept : v.attachments.filter (·.serverId ≠ serverId) = v.attachments :=
    List.filter_eq_self.2 fun a ha => decide_eq_true (hattachments a ha)
  have hheld : (v.attachments.isEmpty && decide (v.status = .inUse)) = false := by
    rw [Bool.and_eq_false_imp]
    intro hempty
    exact decide_eq_false fun hinUse => hstatus hinUse (List.isEmpty_iff.1 hempty)
  rw [releaseFrom, hkept, hheld]
  rfl

/-- Delete a server. -/
def deleteServer (id : String) (s : Resources) : Except CloudError (After Unit) := do
  let _ ← find s.servers "server" id
  return ((),
    { s with
      servers := s.servers.erase id
      volumes := s.volumes.map (releaseFrom id)
      serverPorts := s.serverPorts.erase id })

/-- All attachments to a server. -/
def attachmentsTo (serverId : String) (s : Resources) : List Attachment :=
  s.volumes.values.flatMap fun v => v.attachments.filter (·.serverId = serverId)

/-- The attachments to a server, in the order of their devices. -/
def listAttachments (serverId : String) (s : Resources) :
    Except CloudError (After (List Attachment)) := do
  let _ ← find s.servers "server" serverId
  return ((s.attachmentsTo serverId).mergeSort fun a b => a.device ≤ b.device, s)

/-- Attach a volume, as the device asked for unless another is reported. -/
def attachVolume (serverId volumeId device : String) (s : Resources) :
    Except CloudError (After Attachment) := do
  let _ ← find s.servers "server" serverId
  let v ← find s.volumes "volume" volumeId
  let a : Attachment := ⟨volumeId, serverId, (s.reportedDevices.get? volumeId).getD device⟩
  -- A volume that is attached already is attached once more.
  return (a,
    { s with
      volumes := s.volumes.insert volumeId
        { v with attachments := v.attachments ++ [a], status := .inUse } })

/-- Detach a volume from a server. -/
def detachVolume (serverId volumeId : String) (s : Resources) : Except CloudError (After Unit) := do
  let v ← find s.volumes "volume" volumeId
  let attachments := v.attachments.filter (·.serverId ≠ serverId)
  return ((),
    { s with
      volumes := s.volumes.insert volumeId
        { v with
          attachments := attachments
          status := if attachments.isEmpty then .available else v.status } })

/-- Look a flavor up by its id. -/
def getFlavor (id : String) (s : Resources) : Except CloudError (After Flavor) :=
  s.unchanged <|
    match s.flavors.find? (·.id = id) with
    | some f => .ok f
    | none => .error (.notFound "flavor" id)

/-- The smallest flavor that meets some resource demands. -/
def matchFlavor (r : VmResources) (bootFromVolume : Bool) (s : Resources) :
    Except CloudError (After Flavor) :=
  s.unchanged <|
    match Flavor.smallest? (s.flavors.filter (·.meets r bootFromVolume)) with
    | some f => .ok f
    | none => .error (.notFound "flavor" "matching")

/-- Change a server. -/
def updateServer (id : String) (change : Server → Server) (s : Resources) :
    Except CloudError (After Unit) := do
  let server ← find s.servers "server" id
  return ((), { s with servers := s.servers.insert id (change server) })

/-- The metadata of a server. -/
def getMetadata (id : String) (s : Resources) : Except CloudError (After Metadata) :=
  s.unchanged ((find s.servers "server" id).map (·.metadata))

/-- Find a server and leave it as it is. -/
def touchServer (id : String) (s : Resources) : Except CloudError (After Unit) :=
  s.unchanged ((find s.servers "server" id).map fun _ => ())

/-- The zone of a server. -/
def getServerZone (id : String) (s : Resources) : Except CloudError (After String) :=
  s.unchanged ((find s.servers "server" id).map fun server => server.zone.getD standardZone)

/-! ### Networks -/

/-- Create a port. -/
def createPort (n : Network) (s : Resources) : Except CloudError (After Port) :=
  let port : Port := ⟨s.nextId "port", n.netId, n.ip, none⟩
  .ok (port, { s with issued := s.issued + 1, ports := s.ports.insert port.id port })

/-- The ports of a server that still exist. -/
def getPorts (serverId : String) (s : Resources) : Except CloudError (After (List Port)) :=
  .ok (((s.serverPorts.get? serverId).getD []).filterMap s.ports.get?, s)

/-- Delete some ports. -/
def deletePorts (ports : List Port) (s : Resources) : Except CloudError (After Unit) :=
  .ok ((), { s with ports := ports.foldl (fun t p => t.erase p.id) s.ports })

/-! ### Volumes and snapshots -/

/-- Create a volume. -/
def createVolume (r : VolumeRequest) (s : Resources) : Except CloudError (After Volume) :=
  let v : Volume := {
    id := s.nextId "volume"
    name := r.name
    sizeGib := r.sizeGib
    status := .available
    attachments := []
    metadata := ∅
    zone := r.zone }
  .ok (v, { s with issued := s.issued + 1, volumes := s.volumes.insert v.id v })

/-- A volume as it is reported: in its pinned status, if it has one. -/
def getVolume (id : String) (s : Resources) : Except CloudError (After Volume) :=
  s.unchanged <|
    (find s.volumes "volume" id).map fun v =>
      { v with status := (s.pinnedStatuses.get? id).getD v.status }

/-- Delete a volume. -/
def deleteVolume (id : String) (s : Resources) : Except CloudError (After Unit) := do
  let _ ← find s.volumes "volume" id
  return ((), { s with volumes := s.volumes.erase id })

/-- Change a volume. -/
def updateVolume (id : String) (change : Volume → Volume) (s : Resources) :
    Except CloudError (After Unit) := do
  let v ← find s.volumes "volume" id
  return ((), { s with volumes := s.volumes.insert id (change v) })

/-- Create a snapshot of a volume. -/
def createSnapshot (r : SnapshotRequest) (s : Resources) : Except CloudError (After Snapshot) := do
  let _ ← find s.volumes "volume" r.volumeId
  let snapshot : Snapshot := {
    id := s.nextId "snapshot"
    name := r.name
    volumeId := r.volumeId
    status := .available
    description := r.description
    metadata := r.metadata }
  return (snapshot,
    { s with
      issued := s.issued + 1
      snapshots := s.snapshots.insert snapshot.id snapshot })

/-- Delete a snapshot. -/
def deleteSnapshot (id : String) (s : Resources) : Except CloudError (After Unit) := do
  let _ ← find s.snapshots "snapshot" id
  return ((), { s with snapshots := s.snapshots.erase id })

/-! ### Load balancers -/

/-- Add an address to a pool. -/
def createMember (pool : Pool) (ip : String) (b : PoolBinding) (s : Resources) :
    Except CloudError (After PoolMember) :=
  let m : PoolMember := ⟨s.nextId "member", pool.id, ip, b.port⟩
  .ok (m, { s with issued := s.issued + 1, members := s.members.insert m.id m })

/-- Take a member out of its pool, if it is there. -/
def deleteMember (memberId : String) (s : Resources) : Except CloudError (After Unit) :=
  .ok ((), { s with members := s.members.erase memberId })

/-! ### Calls -/

/-- The answer to a call. -/
def answer : (c : Call) → Resources → Except CloudError (After c.Answer)
  | .openService _, s => .ok ((), s)
  | .createServer r, s => s.createServer r
  | .getServer id, s => s.getServer id
  | .deleteServer id, s => s.deleteServer id
  | .listAttachments id, s => s.listAttachments id
  | .attachVolume server volume device, s => s.attachVolume server volume device
  | .detachVolume server volume, s => s.detachVolume server volume
  | .getFlavor id, s => s.getFlavor id
  | .matchFlavor r boot, s => s.matchFlavor r boot
  | .getMetadata id, s => s.getMetadata id
  | .updateMetadata id m, s =>
    s.updateServer id fun server => { server with metadata := server.metadata.union m }
  | .deleteMetadata id keys, s =>
    s.updateServer id fun server =>
      { server with metadata := keys.foldl (fun t k => t.erase k) server.metadata }
  | .renameServer id name, s => s.updateServer id fun server => { server with name := name }
  | .rebootServer id, s => s.touchServer id
  | .getServerZone id, s => s.getServerZone id
  | .resolveNetworks spec _, s => s.unchanged (NetworkSpec.resolve spec)
  | .createPort n _, s => s.createPort n
  | .getPorts id, s => s.getPorts id
  | .deletePorts ports, s => s.deletePorts ports
  | .configureVip id _, s => s.touchServer id
  | .getSubnet id, s => .ok ("subnet-" ++ id, s)
  | .getImage id, s => s.unchanged ((find s.images "image" id).map fun _ => id)
  | .createVolume r, s => s.createVolume r
  | .getVolume id, s => s.getVolume id
  | .deleteVolume id, s => s.deleteVolume id
  | .extendVolume id size, s => s.updateVolume id fun v => { v with sizeGib := size }
  | .setVolumeMetadata id m, s =>
    s.updateVolume id fun v => { v with metadata := v.metadata.union m }
  | .createSnapshot r, s => s.createSnapshot r
  | .getSnapshot id, s => s.unchanged (find s.snapshots "snapshot" id)
  | .deleteSnapshot id, s => s.deleteSnapshot id
  | .getPool name, s => s.unchanged (find s.pools "pool" name)
  | .createMember pool ip b _ _, s => s.createMember pool ip b
  | .deleteMember _ member _, s => s.deleteMember member

/-! ### Seeding -/

/-- Change a server from outside, if it exists. -/
def modifyServer (id : String) (change : Server → Server) (s : Resources) : Resources :=
  { s with servers := s.servers.modify id change }

/-- Change a volume from outside, if it exists. -/
def modifyVolume (id : String) (change : Volume → Volume) (s : Resources) : Resources :=
  { s with volumes := s.volumes.modify id change }

/-- Offer a flavor. -/
def addFlavor (f : Flavor) (s : Resources) : Resources := { s with flavors := s.flavors ++ [f] }

/-- Offer an image. -/
def addImage (id : String) (s : Resources) : Resources := { s with images := s.images.insert id () }

/-- Put an active server in place. -/
def addServer (id flavorId : String) (s : Resources) : Resources :=
  { s with
    servers := s.servers.insert id
      { id := id, name := id, status := .active, flavorId := flavorId, metadata := ∅,
        zone := some standardZone } }

/-- Put texts into the metadata of a server. -/
def setServerMetadata (id : String) (pairs : List (String × String)) (s : Resources) : Resources :=
  s.modifyServer id fun server =>
    { server with metadata := pairs.foldl (fun t e => t.insert e.1 e.2) server.metadata }

/-- Put a port of a server in place. -/
def addServerPort (serverId portId : String) (s : Resources) : Resources :=
  { s with
    ports := s.ports.insert portId ⟨portId, "net-seeded", none, none⟩
    serverPorts := s.serverPorts.insert serverId
      ((s.serverPorts.get? serverId).getD [] ++ [portId]) }

/-- Put an available volume in place. -/
def addVolume (id : String) (sizeGib : UInt32) (s : Resources) : Resources :=
  { s with
    volumes := s.volumes.insert id
      { id := id, name := id, sizeGib := sizeGib, status := .available, attachments := [],
        metadata := ∅, zone := some standardZone } }

/-- Put an attachment in place. -/
def addAttachment (volumeId serverId device : String) (s : Resources) : Resources :=
  s.modifyVolume volumeId fun v =>
    { v with
      attachments := v.attachments ++ [⟨volumeId, serverId, device⟩]
      status := .inUse }

/-- Fix the status that a volume reports. -/
def pinStatus (volumeId : String) (status : VolumeStatus) (s : Resources) : Resources :=
  { s with pinnedStatuses := s.pinnedStatuses.insert volumeId status }

/-- Fix the device that a volume is attached as. -/
def reportDevice (volumeId device : String) (s : Resources) : Resources :=
  { s with reportedDevices := s.reportedDevices.insert volumeId device }

/-- Put a pool in place. -/
def addPool (name : String) (s : Resources) : Resources :=
  { s with pools := s.pools.insert name ⟨"pool-" ++ name, name⟩ }

/-- Put an available snapshot in place. -/
def addSnapshot (id volumeId : String) (s : Resources) : Resources :=
  { s with
    snapshots := s.snapshots.insert id
      { id := id, name := id, volumeId := volumeId, status := .available, description := "",
        metadata := ∅ } }

end Resources

end CloudProvider
