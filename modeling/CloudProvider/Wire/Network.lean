import CloudProvider.Json.Record
import CloudProvider.Resource.Network

/-!
# Networks on the wire

The JSON form of requested and of resolved networks, and their readers.
-/

namespace CloudProvider

namespace NetworkKind

/-- The JSON form of a kind of network. -/
def toJson (k : NetworkKind) : Json := .string k.text

/-- The kinds by name. -/
def named : List (String × NetworkKind) :=
  [("dynamic", dynamic), ("manual", manual), ("vip", vip)]

/-- Read a kind of network. -/
def ofDocument? (d : Document) : Option NetworkKind := d.choice? named

end NetworkKind

namespace NetworkProperties

/-- The JSON form of the properties of a network. -/
def toJson (p : NetworkProperties) : Json :=
  .object [("net_id", .optional p.netId), ("security_groups", .strings p.securityGroups)]

/-- Read the properties of a network. -/
def ofDocument? (d : Document) : Option NetworkProperties := do
  let field ← d.record? ["net_id", "security_groups"]
  return {
    netId := ← (field "net_id").optional Document.text?
    securityGroups := ← (field "security_groups").defaulted [] (Document.list? Document.text?) }

end NetworkProperties

namespace NetworkSettings

/-- The JSON form of a requested network. -/
def toJson (s : NetworkSettings) : Json :=
  .object [
    ("cloud_properties", s.properties.toJson),
    ("default", .strings s.defaultFor),
    ("dns", .strings s.dns),
    ("gateway", .optional s.gateway),
    ("ip", .optional s.ip),
    ("netmask", .optional s.netmask),
    ("type", s.kind.toJson)]

/-- Read a requested network. -/
def ofDocument? (d : Document) : Option NetworkSettings := do
  let field ← d.record?
    ["type", "ip", "netmask", "gateway", "dns", "default", "cloud_properties"]
  return {
    kind := ← (field "type").defaulted .dynamic NetworkKind.ofDocument?
    ip := ← (field "ip").optional Document.text?
    netmask := ← (field "netmask").optional Document.text?
    gateway := ← (field "gateway").optional Document.text?
    dns := ← (field "dns").defaulted [] (Document.list? Document.text?)
    defaultFor := ← (field "default").defaulted [] (Document.list? Document.text?)
    properties := ← (field "cloud_properties").defaulted {} NetworkProperties.ofDocument? }

end NetworkSettings

namespace NetworkSpec

/-- The JSON form of the requested networks. -/
def toJson (s : NetworkSpec) : Json := .ofTable (s.map NetworkSettings.toJson)

/-- Read the requested networks. -/
def ofDocument? (d : Document) : Option NetworkSpec := d.table? NetworkSettings.ofDocument?

end NetworkSpec

namespace Network

/-- The JSON form of a resolved network. -/
def toJson (n : Network) : Json :=
  .object [
    ("ip", .optional n.ip),
    ("name", .string n.name),
    ("net_id", .string n.netId),
    ("network_type", n.kind.toJson),
    ("port_id", .optional n.portId)]

/-- Read a resolved network. -/
def ofDocument? (d : Document) : Option Network := do
  let field ← d.record? ["name", "network_type", "net_id", "ip", "port_id"]
  return {
    name := ← (field "name").required Document.text?
    kind := ← (field "network_type").required NetworkKind.ofDocument?
    netId := ← (field "net_id").required Document.text?
    ip := ← (field "ip").optional Document.text?
    portId := ← (field "port_id").optional Document.text? }

end Network

namespace NetworkConfig

/-- The JSON form of the networks of a server. -/
def toJson (c : NetworkConfig) : Json :=
  .object [
    ("default_network", c.defaultNetwork.toJson),
    ("manual_networks", .array (c.manualNetworks.map Network.toJson)),
    ("security_groups", .strings c.securityGroups),
    ("vip_network", c.vipNetwork.elim .null Network.toJson)]

/-- Read the networks of a server. -/
def ofDocument? (d : Document) : Option NetworkConfig := do
  let field ← d.record? ["default_network", "manual_networks", "vip_network", "security_groups"]
  return {
    defaultNetwork := ← (field "default_network").required Network.ofDocument?
    manualNetworks := ← (field "manual_networks").required (Document.list? Network.ofDocument?)
    vipNetwork := ← (field "vip_network").optional Network.ofDocument?
    securityGroups := ← (field "security_groups").required (Document.list? Document.text?) }

end NetworkConfig

end CloudProvider
