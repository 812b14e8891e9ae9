import CloudProvider.Resource.Request
import CloudProvider.Wire.Network
import CloudProvider.Wire.Resource

/-!
# Requests on the wire

The JSON form of requests and of their results, and their readers.
-/

namespace CloudProvider

namespace PoolBinding

/-- The JSON form of a pool binding. -/
def toJson (b : PoolBinding) : Json :=
  .object [
    ("monitoring_port", b.monitoringPort.elim .null fun p => .nat p.toNat),
    ("name", .string b.name),
    ("port", .nat b.port.toNat)]

/-- Read a pool binding. -/
def ofDocument? (d : Document) : Option PoolBinding := do
  let field ← d.record? ["name", "port", "monitoring_port"]
  return {
    name := ← (field "name").required Document.text?
    port := ← (field "port").required Document.word16?
    monitoringPort := ← (field "monitoring_port").optional Document.word16? }

end PoolBinding

namespace RootDisk

/-- The JSON form of a root disk. -/
def toJson (r : RootDisk) : Json := .object [("size", .nat r.sizeGib.toNat)]

/-- Read a root disk. -/
def ofDocument? (d : Document) : Option RootDisk := do
  let field ← d.record? ["size"]
  return { sizeGib := ← (field "size").required Document.word32? }

end RootDisk

namespace VmProperties

/-- The JSON form of the properties of a server. -/
def toJson (p : VmProperties) : Json :=
  .object [
    ("availability_zone", .optional p.zone),
    ("availability_zones", .strings p.zones),
    ("boot_from_volume", p.bootFromVolume.elim .null .bool),
    ("instance_type", .string p.instanceType),
    ("key_name", .optional p.keyName),
    ("loadbalancer_pools", .array (p.pools.map PoolBinding.toJson)),
    ("root_disk", p.rootDisk.elim .null RootDisk.toJson)]

/-- Read the properties of a server. -/
def ofDocument? (d : Document) : Option VmProperties := do
  let field ← d.record?
    ["instance_type", "availability_zone", "availability_zones", "loadbalancer_pools",
      "boot_from_volume", "root_disk", "key_name"]
  return {
    instanceType := ← (field "instance_type").required Document.text?
    zone := ← (field "availability_zone").optional Document.text?
    zones := ← (field "availability_zones").defaulted [] (Document.list? Document.text?)
    pools :=
      ← (field "loadbalancer_pools").defaulted [] (Document.list? PoolBinding.ofDocument?)
    bootFromVolume := ← (field "boot_from_volume").optional Document.flag?
    rootDisk := ← (field "root_disk").optional RootDisk.ofDocument?
    keyName := ← (field "key_name").optional Document.text? }

end VmProperties

namespace DiskProperties

/-- The JSON form of the properties of a disk. -/
def toJson (p : DiskProperties) : Json := .object [("type", .optional p.volumeType)]

/-- Read the properties of a disk. -/
def ofDocument? (d : Document) : Option DiskProperties := do
  let field ← d.record? ["type"]
  return { volumeType := ← (field "type").optional Document.text? }

end DiskProperties

namespace VmResources

/-- The JSON form of resource demands. -/
def toJson (r : VmResources) : Json :=
  .object [
    ("cpu", .nat r.cpu.toNat),
    ("ephemeral_disk_size", .nat r.ephemeralDiskMib.toNat),
    ("ram", .nat r.ramMib.toNat)]

/-- Read resource demands. -/
def ofDocument? (d : Document) : Option VmResources := do
  let field ← d.record? ["cpu", "ram", "ephemeral_disk_size"]
  return {
    cpu := ← (field "cpu").required Document.word32?
    ramMib := ← (field "ram").required Document.word32?
    ephemeralDiskMib := ← (field "ephemeral_disk_size").required Document.word32? }

end VmResources

namespace VmRequest

/-- The JSON form of a request for a server. -/
def toJson (r : VmRequest) : Json :=
  .object [
    ("agent_id", .string r.agentId),
    ("cloud_properties", r.properties.toJson),
    ("disk_ids", .strings r.diskIds),
    ("environment", r.environment),
    ("networks", NetworkSpec.toJson r.networks),
    ("stemcell_id", .string r.stemcellId)]

/-- Read a request for a server. -/
def ofDocument? (d : Document) : Option VmRequest := do
  let field ← d.record?
    ["agent_id", "stemcell_id", "cloud_properties", "networks", "disk_ids", "environment"]
  return {
    agentId := ← (field "agent_id").required Document.text?
    stemcellId := ← (field "stemcell_id").required Document.text?
    properties := ← (field "cloud_properties").required VmProperties.ofDocument?
    networks := ← (field "networks").required NetworkSpec.ofDocument?
    diskIds := ← (field "disk_ids").defaulted [] (Document.list? Document.text?)
    environment := ← (field "environment").defaulted .null Document.toJson? }

end VmRequest

namespace ServerRequest

/-- The JSON form of the instructions for a server. -/
def toJson (r : ServerRequest) : Json :=
  .object [
    ("agent_id", .string r.agentId),
    ("availability_zone", .optional r.zone),
    ("cloud_properties", r.properties.toJson),
    ("config_drive", .bool r.configDrive),
    ("disk_ids", .strings r.diskIds),
    ("environment", r.environment),
    ("image_id", .string r.imageId),
    ("name", .string r.name),
    ("network_config", r.networks.toJson)]

/-- Read the instructions for a server. -/
def ofDocument? (d : Document) : Option ServerRequest := do
  let field ← d.record?
    ["name", "image_id", "cloud_properties", "availability_zone", "network_config", "disk_ids",
      "agent_id", "environment", "config_drive"]
  return {
    name := ← (field "name").required Document.text?
    imageId := ← (field "image_id").required Document.text?
    properties := ← (field "cloud_properties").required VmProperties.ofDocument?
    zone := ← (field "availability_zone").optional Document.text?
    networks := ← (field "network_config").required NetworkConfig.ofDocument?
    diskIds := ← (field "disk_ids").required (Document.list? Document.text?)
    agentId := ← (field "agent_id").required Document.text?
    environment := ← (field "environment").required Document.toJson?
    configDrive := ← (field "config_drive").required Document.flag? }

end ServerRequest

namespace VolumeRequest

/-- The JSON form of the instructions for a volume. -/
def toJson (r : VolumeRequest) : Json :=
  .object [
    ("availability_zone", .optional r.zone),
    ("name", .string r.name),
    ("size_gib", .nat r.sizeGib.toNat),
    ("volume_type", .optional r.volumeType)]

/-- Read the instructions for a volume. -/
def ofDocument? (d : Document) : Option VolumeRequest := do
  let field ← d.record? ["name", "size_gib", "volume_type", "availability_zone"]
  return {
    name := ← (field "name").required Document.text?
    sizeGib := ← (field "size_gib").required Document.word32?
    volumeType := ← (field "volume_type").optional Document.text?
    zone := ← (field "availability_zone").optional Document.text? }

end VolumeRequest

namespace SnapshotRequest

/-- The JSON form of the instructions for a snapshot. -/
def toJson (r : SnapshotRequest) : Json :=
  .object [
    ("description", .string r.description),
    ("force", .bool r.force),
    ("metadata", Metadata.toJson r.metadata),
    ("name", .string r.name),
    ("volume_id", .string r.volumeId)]

/-- Read the instructions for a snapshot. -/
def ofDocument? (d : Document) : Option SnapshotRequest := do
  let field ← d.record? ["volume_id", "force", "name", "description", "metadata"]
  return {
    volumeId := ← (field "volume_id").required Document.text?
    force := ← (field "force").required Document.flag?
    name := ← (field "name").required Document.text?
    description := ← (field "description").required Document.text?
    metadata := ← (field "metadata").required Metadata.ofDocument? }

end SnapshotRequest

namespace CreatedVm

/-- The JSON form of a created server. -/
def toJson (v : CreatedVm) : Json :=
  .object [("networks", v.networks.toJson), ("vm_id", .string v.vmId)]

end CreatedVm

namespace CalculatedVmProperties

/-- The JSON form of calculated properties; an absent root disk is left out. -/
def toJson (p : CalculatedVmProperties) : Json :=
  .object (("instance_type", .string p.instanceType) ::
    (p.rootDisk.map fun r => ("root_disk", r.toJson)).toList)

/-- Read calculated properties. -/
def ofDocument? (d : Document) : Option CalculatedVmProperties := do
  let field ← d.record? ["instance_type", "root_disk"]
  return {
    instanceType := ← (field "instance_type").required Document.text?
    rootDisk := ← (field "root_disk").optional RootDisk.ofDocument? }

end CalculatedVmProperties

namespace DiskHint

/-- The JSON form of a disk hint. -/
def toJson (h : DiskHint) : Json := .object [("path", .string h.path)]

/-- Read a disk hint. -/
def ofDocument? (d : Document) : Option DiskHint := do
  let field ← d.record? ["path"]
  return { path := ← (field "path").required Document.text? }

end DiskHint

namespace Info

/-- The JSON form of what the library can do. -/
def toJson (i : Info) : Json :=
  .object [
    ("api_version", .nat i.apiVersion.toNat),
    ("stemcell_formats", .strings i.stemcellFormats)]

/-- Read what the library can do. -/
def ofDocument? (d : Document) : Option Info := do
  let field ← d.record? ["stemcell_formats", "api_version"]
  return {
    stemcellFormats := ← (field "stemcell_formats").required (Document.list? Document.text?)
    apiVersion := ← (field "api_version").required Document.word32? }

end Info

end CloudProvider
