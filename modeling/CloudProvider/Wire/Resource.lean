import CloudProvider.Json.Record
import CloudProvider.Resource.Basic

/-!
# Resources on the wire

The JSON form of every resource, and its reader.
-/

namespace CloudProvider

/-! ## Statuses -/

namespace ServerStatus

/-- The JSON form of a server status. -/
def toJson (s : ServerStatus) : Json := .string s.text

/-- Read a server status. -/
def ofDocument? (d : Document) : Option ServerStatus := d.text?.map ofText

end ServerStatus

namespace VolumeStatus

/-- The JSON form of a volume status. -/
def toJson (s : VolumeStatus) : Json := .string s.text

/-- Read a volume status. -/
def ofDocument? (d : Document) : Option VolumeStatus := d.text?.map ofText

end VolumeStatus

namespace SnapshotStatus

/-- The JSON form of a snapshot status. -/
def toJson (s : SnapshotStatus) : Json := .string s.text

/-- Read a snapshot status. -/
def ofDocument? (d : Document) : Option SnapshotStatus := d.text?.map ofText

end SnapshotStatus

/-! ## Resources -/

namespace Metadata

/-- The JSON form of metadata. -/
def toJson (m : Metadata) : Json := .ofTable (m.map .string)

/-- Read metadata. -/
def ofDocument? (d : Document) : Option Metadata := d.table? Document.text?

end Metadata

namespace Server

/-- The JSON form of a server. -/
def toJson (s : Server) : Json :=
  .object [
    ("availability_zone", .optional s.zone),
    ("flavor_id", .string s.flavorId),
    ("id", .string s.id),
    ("metadata", s.metadata.toJson),
    ("name", .string s.name),
    ("status", s.status.toJson)]

/-- Read a server. -/
def ofDocument? (d : Document) : Option Server := do
  let field ← d.record? ["id", "name", "status", "flavor_id", "metadata", "availability_zone"]
  return {
    id := ← (field "id").required Document.text?
    name := ← (field "name").required Document.text?
    status := ← (field "status").required ServerStatus.ofDocument?
    flavorId := ← (field "flavor_id").required Document.text?
    metadata := ← (field "metadata").defaulted ∅ Metadata.ofDocument?
    zone := ← (field "availability_zone").optional Document.text? }

end Server

namespace Attachment

/-- The JSON form of an attachment. -/
def toJson (a : Attachment) : Json :=
  .object [
    ("device", .string a.device),
    ("server_id", .string a.serverId),
    ("volume_id", .string a.volumeId)]

/-- Read an attachment. -/
def ofDocument? (d : Document) : Option Attachment := do
  let field ← d.record? ["volume_id", "server_id", "device"]
  return {
    volumeId := ← (field "volume_id").required Document.text?
    serverId := ← (field "server_id").required Document.text?
    device := ← (field "device").required Document.text? }

end Attachment

namespace Volume

/-- The JSON form of a volume. -/
def toJson (v : Volume) : Json :=
  .object [
    ("attachments", .array (v.attachments.map Attachment.toJson)),
    ("availability_zone", .optional v.zone),
    ("id", .string v.id),
    ("metadata", v.metadata.toJson),
    ("name", .string v.name),
    ("size_gib", .nat v.sizeGib.toNat),
    ("status", v.status.toJson)]

/-- Read a volume. -/
def ofDocument? (d : Document) : Option Volume := do
  let field ← d.record?
    ["id", "name", "size_gib", "status", "attachments", "metadata", "availability_zone"]
  return {
    id := ← (field "id").required Document.text?
    name := ← (field "name").required Document.text?
    sizeGib := ← (field "size_gib").required Document.word32?
    status := ← (field "status").required VolumeStatus.ofDocument?
    attachments := ← (field "attachments").defaulted [] (Document.list? Attachment.ofDocument?)
    metadata := ← (field "metadata").defaulted ∅ Metadata.ofDocument?
    zone := ← (field "availability_zone").optional Document.text? }

end Volume

namespace Snapshot

/-- The JSON form of a snapshot. -/
def toJson (s : Snapshot) : Json :=
  .object [
    ("description", .string s.description),
    ("id", .string s.id),
    ("metadata", s.metadata.toJson),
    ("name", .string s.name),
    ("status", s.status.toJson),
    ("volume_id", .string s.volumeId)]

/-- Read a snapshot. -/
def ofDocument? (d : Document) : Option Snapshot := do
  let field ← d.record? ["id", "name", "volume_id", "status", "description", "metadata"]
  return {
    id := ← (field "id").required Document.text?
    name := ← (field "name").required Document.text?
    volumeId := ← (field "volume_id").required Document.text?
    status := ← (field "status").required SnapshotStatus.ofDocument?
    description := ← (field "description").required Document.text?
    metadata := ← (field "metadata").defaulted ∅ Metadata.ofDocument? }

end Snapshot

namespace Flavor

/-- The JSON form of a flavor. -/
def toJson (f : Flavor) : Json :=
  .object [
    ("disk_gib", .nat f.diskGib.toNat),
    ("ephemeral_gib", .nat f.ephemeralGib.toNat),
    ("id", .string f.id),
    ("name", .string f.name),
    ("ram_mib", .nat f.ramMib.toNat),
    ("swap_mib", .nat f.swapMib.toNat),
    ("vcpus", .nat f.vcpus.toNat)]

/-- Read a flavor. -/
def ofDocument? (d : Document) : Option Flavor := do
  let field ← d.record?
    ["id", "name", "vcpus", "ram_mib", "disk_gib", "ephemeral_gib", "swap_mib"]
  return {
    id := ← (field "id").required Document.text?
    name := ← (field "name").required Document.text?
    vcpus := ← (field "vcpus").required Document.word32?
    ramMib := ← (field "ram_mib").required Document.word32?
    diskGib := ← (field "disk_gib").required Document.word32?
    ephemeralGib := ← (field "ephemeral_gib").required Document.word32?
    swapMib := ← (field "swap_mib").required Document.word32? }

end Flavor

namespace Port

/-- The JSON form of a port. -/
def toJson (p : Port) : Json :=
  .object [
    ("id", .string p.id),
    ("ip_address", .optional p.ipAddress),
    ("mac_address", .optional p.macAddress),
    ("network_id", .string p.networkId)]

/-- Read a port. -/
def ofDocument? (d : Document) : Option Port := do
  let field ← d.record? ["id", "network_id", "ip_address", "mac_address"]
  return {
    id := ← (field "id").required Document.text?
    networkId := ← (field "network_id").required Document.text?
    ipAddress := ← (field "ip_address").optional Document.text?
    macAddress := ← (field "mac_address").optional Document.text? }

end Port

namespace Pool

/-- The JSON form of a pool. -/
def toJson (p : Pool) : Json := .object [("id", .string p.id), ("name", .string p.name)]

/-- Read a pool. -/
def ofDocument? (d : Document) : Option Pool := do
  let field ← d.record? ["id", "name"]
  return {
    id := ← (field "id").required Document.text?
    name := ← (field "name").required Document.text? }

end Pool

namespace PoolMember

/-- The JSON form of a pool member. -/
def toJson (m : PoolMember) : Json :=
  .object [
    ("address", .string m.address),
    ("id", .string m.id),
    ("pool_id", .string m.poolId),
    ("protocol_port", .nat m.protocolPort.toNat)]

/-- Read a pool member. -/
def ofDocument? (d : Document) : Option PoolMember := do
  let field ← d.record? ["id", "pool_id", "address", "protocol_port"]
  return {
    id := ← (field "id").required Document.text?
    poolId := ← (field "pool_id").required Document.text?
    address := ← (field "address").required Document.text?
    protocolPort := ← (field "protocol_port").required Document.word16? }

end PoolMember

end CloudProvider
