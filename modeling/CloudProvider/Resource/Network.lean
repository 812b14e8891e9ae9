import CloudProvider.Table

/-!
# Networks

The networks that a caller asks for, by name, and what the backend makes of them:
one network that carries the default gateway, the networks that need a port of
their own, and at most one for a floating address. The default network may be one
of those with a port, so a port is recorded on both.

* `NetworkConfig.assignPort`: record a port under the name of its network.
-/

namespace CloudProvider

/-- How the address of a network is found. -/
inductive NetworkKind where
  /-- By the backend. -/
  | dynamic
  /-- By the caller, on a port. -/
  | manual
  /-- A floating address. -/
  | vip
  deriving DecidableEq, Inhabited

namespace NetworkKind

/-- The name of a kind. -/
def text : NetworkKind → String
  | dynamic => "dynamic"
  | manual => "manual"
  | vip => "vip"

end NetworkKind

/-- What the backend needs to know of a requested network. -/
structure NetworkProperties where
  netId : Option String := none
  securityGroups : List String := []
  deriving DecidableEq, Inhabited

/-- A requested network. -/
structure NetworkSettings where
  kind : NetworkKind := .dynamic
  ip : Option String := none
  netmask : Option String := none
  gateway : Option String := none
  dns : List String := []
  /-- What this network is the default for. -/
  defaultFor : List String := []
  properties : NetworkProperties := {}
  deriving DecidableEq, Inhabited

/-- The requested networks by name. -/
abbrev NetworkSpec := Table NetworkSettings

/-- A network as the backend resolved it. -/
structure Network where
  name : String
  kind : NetworkKind
  /-- The id of the network on the backend, empty for a floating address. -/
  netId : String
  ip : Option String
  /-- The port created for the network. -/
  portId : Option String
  deriving DecidableEq, Inhabited

/-- The networks of one server. -/
structure NetworkConfig where
  /-- The network with the default gateway. -/
  defaultNetwork : Network
  /-- The networks that need a port. -/
  manualNetworks : List Network
  vipNetwork : Option Network
  securityGroups : List String
  deriving DecidableEq, Inhabited

namespace Network

/-- Record a port if it belongs to the network. -/
def assignPort (name portId : String) (n : Network) : Network :=
  if n.name = name then { n with portId := some portId } else n

end Network

namespace NetworkConfig

/-- Record a port on the manual networks of a name, and on the default network if
    it has the name too. -/
def assignPort (c : NetworkConfig) (name portId : String) : NetworkConfig :=
  { c with
    defaultNetwork := c.defaultNetwork.assignPort name portId
    manualNetworks := c.manualNetworks.map (Network.assignPort name portId) }

/-- The ports of the manual networks that have one. -/
def portIds (c : NetworkConfig) : List String := c.manualNetworks.filterMap (·.portId)

end NetworkConfig

end CloudProvider
