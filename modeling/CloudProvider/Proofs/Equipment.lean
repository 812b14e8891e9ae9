import CloudProvider.Proofs.Networks
import CloudProvider.Proofs.Success
import CloudProvider.Proofs.Tags
import Mathlib.Data.List.Forall2

/-!
# The equipment of a server

What exactly a creation that succeeds has put into the resources, whatever failed on the
way: a server, a port on each network that needs one, and a member in each pool that the
server is bound to.

* `Resources.equip`: the resources with these;
* `Equipment`: what they are like;
* `createVm_equips`: this is what a creation leaves.
-/

namespace CloudProvider

open Program

/-- What is remembered about a member. -/
def PoolMember.membership (m : PoolMember) : Membership := ⟨m.poolId, m.id⟩

namespace Resources

/-! ## New ids -/

/-- Ids that are given out to resources of some kind: they differ, and none was given out
    before. -/
structure Fresh (s : Resources) (kind : String) (ids : List String) : Prop where
  unissued : ∀ id ∈ ids, s.Unissued kind id
  distinct : ids.Nodup

variable {s s' : Resources} {kind : String} {ids : List String}

theorem fresh_nil (s : Resources) (kind : String) : s.Fresh kind [] where
  unissued _ h := absurd h List.not_mem_nil
  distinct := List.nodup_nil

theorem Fresh.mono (h : s'.Fresh kind ids) (hissued : s.issued ≤ s'.issued) :
    s.Fresh kind ids where
  unissued id hid := (h.unissued id hid).mono hissued
  distinct := h.distinct

/-- One id is given out, and then some more. -/
theorem Fresh.cons (h : s'.Fresh kind ids) (hissued : s'.issued = s.issued + 1) :
    s.Fresh kind (s.nextId kind :: ids) where
  unissued := List.forall_mem_cons.2 ⟨s.unissued_nextId kind,
    (h.mono (hissued ▸ Nat.le_succ _)).unissued⟩
  distinct := List.nodup_cons.2
    ⟨fun hmem => not_unissued_nextId (hissued ▸ Nat.lt_succ_self _) (h.unissued _ hmem),
      h.distinct⟩

/-! ## New resources -/

/-- The server that a request amounts to. -/
def serverFor (r : ServerRequest) (s : Resources) : Server where
  id := s.nextId "server"
  name := r.name
  status := .active
  flavorId :=
    ((s.flavors.find? (·.name = r.properties.instanceType)).map (·.id)).getD
      r.properties.instanceType
  metadata := ∅
  zone := r.zone.or (some standardZone)

/-- Add the server that a request amounts to. -/
def boot (r : ServerRequest) (s : Resources) : Resources :=
  { s with
    issued := s.issued + 1
    servers := s.servers.insert (s.serverFor r).id (s.serverFor r)
    serverPorts := s.serverPorts.insert (s.serverFor r).id r.networks.portIds }

/-- Add some ports. -/
def addPorts (ports : List Port) (s : Resources) : Resources :=
  { s with
    issued := s.issued + ports.length
    ports := s.ports.insertAll Port.id ports }

/-- Add some members of pools. -/
def addMembers (members : List PoolMember) (s : Resources) : Resources :=
  { s with
    issued := s.issued + members.length
    members := s.members.insertAll PoolMember.id members }

/-- Add a server with its ports and its members of pools. -/
def equip (server : Server) (ports : List Port) (members : List PoolMember) (s : Resources) :
    Resources :=
  { s with
    issued := s.issued + ports.length + 1 + members.length
    servers := s.servers.insert server.id server
    serverPorts := s.serverPorts.insert server.id (ports.map (·.id))
    ports := s.ports.insertAll Port.id ports
    members := s.members.insertAll PoolMember.id members }

theorem addPorts_cons (port : Port) (ports : List Port) (s : Resources) :
    (s.addPorts [port]).addPorts ports = s.addPorts (port :: ports) := by
  simp only [addPorts, Table.insertAll, List.length_cons, List.length_nil, List.foldl_cons,
    List.foldl_nil]
  rw [Nat.zero_add, Nat.add_assoc, Nat.add_comm 1]

theorem addMembers_cons (m : PoolMember) (members : List PoolMember) (s : Resources) :
    (s.addMembers [m]).addMembers members = s.addMembers (m :: members) := by
  simp only [addMembers, Table.insertAll, List.length_cons, List.length_nil, List.foldl_cons,
    List.foldl_nil]
  rw [Nat.zero_add, Nat.add_assoc, Nat.add_comm 1]

end Resources

namespace Lifecycle

open Operation Resources

/-! ## Steps -/

variable {settings : Settings} {s : Resources}

/-- A port that was created on a network. -/
def Carries (n : Network) (port : Port) : Prop :=
  port.networkId = n.netId ∧ port.ipAddress = n.ip

/-- A member that was created for a binding, at an address. -/
def Joins (pools : Table Pool) (ip : Option String) (binding : PoolBinding) (m : PoolMember) :
    Prop :=
  (∃ pool, pools.get? binding.name = some pool ∧ m.poolId = pool.id) ∧
    m.protocolPort = binding.port ∧ ip = some m.address

/-- A port is added for each network and recorded under its name. -/
theorem ensures_createPorts_adds {groups : List String} {networks : List Network}
    {config : NetworkConfig} {t : Trail} :
    Provision.Ensures faltering (fun r _ => IfOk (fun config' s' => ∃ ports,
        List.Forall₂ Carries networks ports ∧ s.Fresh "port" (ports.map (·.id)) ∧
          s' = s.addPorts ports ∧ config' = config.assignPorts (Network.record networks ports)) r)
      (createPorts settings groups networks config) t s := by
  induction networks generalizing config s t with
  | nil => exact ⟨[], .nil, s.fresh_nil _, rfl, rfl⟩
  | cons network networks ih =>
    refine Provision.ensures_bind_ok (R := fun port s' => s' = s.addPorts [port] ∧
        port.id = s.nextId "port" ∧ Carries network port)
      (ensures_askRepeatedly_ok (c := .createPort network groups) (fun port s' hs => ?_) _ _ _) ?_
    · cases hs
      exact ⟨rfl, rfl, rfl, rfl⟩
    rintro port _ ⟨rfl, hid, hcarries⟩
    refine Provision.ensures_bind.2 (Provision.ensures_trackPort.2 (ih.mono ?_))
    rintro ⟨r, t⟩ s' hr
    cases r with
    | error e => trivial
    | ok config' =>
      obtain ⟨ports, hports, hfresh, rfl, rfl⟩ := hr
      refine ⟨port :: ports, .cons hcarries hports, ?_, addPorts_cons port ports s, rfl⟩
      rw [List.map_cons, hid]
      exact hfresh.cons rfl

theorem ensures_configureFloating_unchanged (id : String) (config : NetworkConfig) :
    (configureFloating id config).run.Ensures faltering (IfOk fun _ s' => s' = s) s := by
  unfold configureFloating
  split
  · exact ensures_ask_ok (c := .configureVip _ _) (fun a s' hs => (unchanged_ok hs).2) _
  · exact rfl

/-- A member is added for each binding. -/
theorem ensures_joinPools_adds {network : Network} {ip : String} {bindings : List PoolBinding} :
    (joinPools settings network ip bindings).run.Ensures faltering (IfOk fun joined s' =>
      ∃ members, List.Forall₂ (Joins s.pools (some ip)) bindings members ∧
        s.Fresh "member" (members.map (·.id)) ∧ s' = s.addMembers members ∧
        joined = members.map PoolMember.membership) s := by
  induction bindings generalizing s with
  | nil => exact ⟨[], .nil, s.fresh_nil _, rfl, rfl⟩
  | cons binding bindings ih =>
    refine ensures_bind_ok (R := fun pool s' => s' = s ∧ s.pools.get? binding.name = some pool)
      (ensures_ask_ok (c := .getPool binding.name) (fun pool s' hs => ?_) _) ?_
    · obtain ⟨hfind, rfl⟩ := unchanged_ok hs
      exact ⟨rfl, find_ok hfind⟩
    rintro pool s ⟨rfl, hpool⟩
    refine ensures_bind_ok (R := fun _ s' => s' = s)
      (ensures_ask_ok (c := .getSubnet network.netId) (fun _ s' hs => ?_) _) ?_
    · cases hs
      rfl
    rintro subnetId s rfl
    refine ensures_bind_ok (R := fun member s' => s' = s.addMembers [member] ∧
        member.id = s.nextId "member" ∧ member.poolId = pool.id ∧
        Joins s.pools (some ip) binding member)
      (ensures_askRepeatedly_ok (c := .createMember pool ip binding subnetId settings.stateTimeout)
        (fun member s' hs => ?_) _ _ _) ?_
    · cases hs
      exact ⟨rfl, rfl, rfl, ⟨pool, hpool, rfl⟩, rfl, rfl⟩
    rintro member _ ⟨rfl, hid, hpoolId, hjoins⟩
    refine ensures_bind_ok ih ?_
    rintro _ _ ⟨members, hmembers, hfresh, rfl, rfl⟩
    refine ⟨member :: members, .cons hjoins hmembers, ?_, addMembers_cons member members s, ?_⟩
    · rw [List.map_cons, hid]
      exact hfresh.cons rfl
    · rw [List.map_cons, PoolMember.membership, hpoolId]

theorem ensures_registerMembers_adds {config : NetworkConfig} {properties : VmProperties} :
    (registerMembers settings config properties).run.Ensures faltering (IfOk fun joined s' =>
      ∃ members, List.Forall₂ (Joins s.pools config.defaultNetwork.ip) properties.pools members ∧
        s.Fresh "member" (members.map (·.id)) ∧ s' = s.addMembers members ∧
        joined = members.map PoolMember.membership) s := by
  unfold registerMembers
  split
  · rename_i hempty
    rw [List.isEmpty_iff.1 hempty]
    exact ⟨[], .nil, s.fresh_nil _, rfl, rfl⟩
  · split
    · rename_i ip hip
      rw [hip]
      exact ensures_joinPools_adds
    · trivial

/-- A server that has no metadata gets the tags of its memberships. -/
theorem ensures_tagMemberships_tags {server : Server} {ms : List Membership}
    (hserver : s.servers.get? server.id = some server) (hmetadata : server.metadata = ∅) :
    (tagMemberships server.id ms).run.Ensures faltering (IfOk fun _ s' =>
      s' = { s with
        servers := s.servers.insert server.id
          { server with metadata := Membership.tags ms } }) s := by
  unfold tagMemberships
  split
  · rename_i hempty
    -- Without memberships there is nothing to write, and nothing is written.
    have htags : Membership.tags ms = server.metadata := by
      rw [hmetadata, List.isEmpty_iff.1 hempty]
      rfl
    have hinsert := Table.insert_eq_self hserver
    rw [htags, hinsert]
    exact rfl
  · refine ensures_ask_ok (c := .updateMetadata _ _) (fun a s' hs => ?_) _
    obtain ⟨found, hfound, hs⟩ := find_bind_ok hs
    obtain rfl : server = found := Option.some.inj (hserver.symm.trans hfound)
    cases hs
    have htags := Table.empty_union (Membership.tags ms)
    rw [← hmetadata] at htags
    simp only [htags]

/-! ## The whole creation -/

/-- No id is in use that is to be given out to a server, a port or a member. -/
structure Unclaimed (s : Resources) : Prop extends Unused s where
  members {id} : s.Unissued "member" id → s.members.get? id = none

/-- What a new server, its ports and its members of pools are like. -/
structure Equipment (s : Resources) (request : VmRequest) (vm : CreatedVm) (server : Server)
    (ports : List Port) (members : List PoolMember) : Prop where
  vmId : server.id = vm.vmId
  /-- Its id is the one that is given out after those of its ports. -/
  serverId : server.id = (s.addPorts ports).nextId "server"
  newServer : s.servers.get? server.id = none ∧ s.serverPorts.get? server.id = none
  active : server.status = .active
  /-- Its flavor is the first of the name asked for, or that name if there is none. -/
  flavor : server.flavorId =
    ((s.flavors.find? (·.name = request.properties.instanceType)).map (·.id)).getD
      request.properties.instanceType
  /-- Its metadata are the numbered tags of its members, and nothing else. -/
  metadata : ∀ name value, server.metadata.get? name = some value ↔
    ∃ i m, members[i]? = some m ∧ name = "lbaas_pool_" ++ toString (i + 1) ∧
      value = m.poolId ++ "/" ++ m.id
  newPorts : ∀ port ∈ ports, s.ports.get? port.id = none
  freshPorts : s.Fresh "port" (ports.map (·.id))
  /-- There is a port for each requested network that needs one. -/
  plugged : List.Forall₂
    (fun entry port =>
      port.networkId = entry.2.properties.netId.getD "" ∧ port.ipAddress = entry.2.ip)
    (request.networks.entries.filter (·.2.kind = .manual)) ports
  /-- The networks are those that the request amounts to, with these ports on them. -/
  networks : ∃ config portId, NetworkSpec.resolve request.networks = .ok config ∧
    vm.networks = { config with
      defaultNetwork := { config.defaultNetwork with portId := portId }
      manualNetworks := Network.equip config.manualNetworks ports }
  /-- The default network has the port of the network of its name. -/
  default : vm.networks.defaultNetwork.portId =
    (vm.networks.manualNetworks.find? (·.name = vm.networks.defaultNetwork.name)).bind (·.portId)
  /-- If it needs no port, it has none. -/
  portless : vm.networks.defaultNetwork.kind ≠ .manual → vm.networks.defaultNetwork.portId = none
  newMembers : ∀ m ∈ members, s.members.get? m.id = none
  freshMembers : s.Fresh "member" (members.map (·.id))
  /-- There is a member for each binding, at the address of the default network. -/
  joined : List.Forall₂ (Joins s.pools vm.networks.defaultNetwork.ip) request.properties.pools
    members

/-- The tags of members are numbered in their order. -/
theorem get?_tags_membership (members : List PoolMember) (name value : String) :
    (Membership.tags (members.map PoolMember.membership)).get? name = some value ↔
      ∃ i m, members[i]? = some m ∧ name = "lbaas_pool_" ++ toString (i + 1) ∧
        value = m.poolId ++ "/" ++ m.id := by
  rw [Membership.get?_tags]
  constructor
  · rintro ⟨i, m, hm, hname, hvalue⟩
    obtain ⟨member, hmember, rfl⟩ := Option.map_eq_some_iff.1 (List.getElem?_map.symm.trans hm)
    exact ⟨i, member, hmember, hname, hvalue⟩
  · rintro ⟨i, member, hmember, hname, hvalue⟩
    exact ⟨i, _, List.getElem?_map.trans (congrArg _ hmember), hname, hvalue⟩

/-- What is left is what was there and a server with its equipment. -/
def Equipped (s : Resources) (request : VmRequest) (vm : CreatedVm) (s' : Resources) : Prop :=
  ∃ server ports members, s' = s.equip server ports members ∧
    Equipment s request vm server ports members

/-- What a creation puts together: the networks that the request amounts to with a port for each
    that needs one, the instructions for a server on them, and a member for each binding. -/
structure Creation (s : Resources) (request : VmRequest) (instructions : ServerRequest)
    (config : NetworkConfig) (ports : List Port) (members : List PoolMember) : Prop where
  properties : instructions.properties = request.properties
  resolved : NetworkSpec.resolve request.networks = .ok config
  plugged : List.Forall₂ Carries config.manualNetworks ports
  freshPorts : s.Fresh "port" (ports.map (·.id))
  joined : List.Forall₂ (Joins s.pools config.defaultNetwork.ip) request.properties.pools members
  freshMembers : ((s.addPorts ports).boot instructions).Fresh "member" (members.map (·.id))

namespace Creation

variable {request : VmRequest} {instructions : ServerRequest} {config : NetworkConfig}
  {ports : List Port} {members : List PoolMember}

/-- The server for some instructions, tagged with its members. -/
def server (s : Resources) (instructions : ServerRequest) (ports : List Port)
    (members : List PoolMember) : Server :=
  { (s.addPorts ports).serverFor instructions with
    metadata := Membership.tags (members.map PoolMember.membership) }

/-- The networks, with the ports recorded on those that need one. -/
theorem assignPorts_eq (h : Creation s request instructions config ports members) :
    config.assignPorts (Network.record config.manualNetworks ports) = { config with
      defaultNetwork := config.defaultNetwork.assignPorts
        (Network.record config.manualNetworks ports)
      manualNetworks := Network.equip config.manualNetworks ports } := by
  rw [NetworkConfig.assignPorts_eq,
    Network.map_assignPorts (NetworkSpec.names_of_resolve h.resolved) h.plugged.length_eq]

/-- If no id is in use that is to be given out, what is put together is new. -/
theorem equipment (h : Creation s request instructions config ports members) (h₀ : Unclaimed s) :
    Equipment s request
      ⟨(server s instructions ports members).id,
        config.assignPorts (Network.record config.manualNetworks ports)⟩
      (server s instructions ports members) ports members := by
  have hlength := h.plugged.length_eq
  have hnetworks := h.assignPorts_eq
  have hnone : config.defaultNetwork.portId = none := by
    rw [← NetworkSpec.bare_of_resolve h.resolved]
    rfl
  have hid : s.Unissued "server" (server s instructions ports members).id :=
    ((s.addPorts ports).unissued_nextId "server").mono (Nat.le_add_right _ _)
  have hissued : s.issued ≤ ((s.addPorts ports).boot instructions).issued :=
    Nat.le_succ_of_le (Nat.le_add_right _ _)
  exact {
    vmId := rfl
    serverId := rfl
    newServer := ⟨h₀.servers hid, h₀.serverPorts hid⟩
    active := rfl
    flavor := by
      rw [← h.properties]
      rfl
    metadata := get?_tags_membership members
    newPorts := fun port hport =>
      h₀.ports (h.freshPorts.unissued _ (List.mem_map_of_mem hport))
    freshPorts := h.freshPorts
    plugged := by
      have hplugged := h.plugged
      rw [NetworkSpec.manualNetworks_of_resolve h.resolved, List.forall₂_map_left_iff] at hplugged
      exact hplugged
    networks := ⟨config, _, h.resolved, by rw [hnetworks, Network.assignPorts_eq]⟩
    default := by
      have hname : (config.defaultNetwork.assignPorts
          (Network.record config.manualNetworks ports)).name = config.defaultNetwork.name := by
        rw [Network.assignPorts_eq]
      rw [hnetworks, hname]
      exact Network.portId_assignPorts (NetworkSpec.names_of_resolve h.resolved) hlength hnone
    portless := by
      have hkind : (config.defaultNetwork.assignPorts
          (Network.record config.manualNetworks ports)).kind = config.defaultNetwork.kind := by
        rw [Network.assignPorts_eq]
      rw [hnetworks, hkind]
      intro hmanual
      rw [Network.assignPorts_of_notMem (NetworkSpec.portless_of_resolve h.resolved hmanual), hnone]
    newMembers := fun m hm =>
      h₀.members ((h.freshMembers.mono hissued).unissued _ (List.mem_map_of_mem hm))
    freshMembers := h.freshMembers.mono hissued
    joined := by
      rw [hnetworks, Network.assignPorts_eq]
      exact h.joined }

end Creation

/-- What is left is what was there and what a creation put together. -/
def Created (s : Resources) (request : VmRequest) (vm : CreatedVm) (s' : Resources) : Prop :=
  ∃ instructions config ports members, Creation s request instructions config ports members ∧
    vm = ⟨(Creation.server s instructions ports members).id,
      config.assignPorts (Network.record config.manualNetworks ports)⟩ ∧
    s' = s.equip (Creation.server s instructions ports members) ports members

theorem Created.equipped {request : VmRequest} {vm : CreatedVm} {s' : Resources}
    (h : Created s request vm s') (h₀ : Unclaimed s) : Equipped s request vm s' := by
  obtain ⟨instructions, config, ports, members, hcreation, rfl, rfl⟩ := h
  exact ⟨_, ports, members, rfl, hcreation.equipment h₀⟩

theorem ensures_provision_creates {chance : Chance} {request : VmRequest} {imageId : String}
    {config : NetworkConfig} {t : Trail}
    (hconfig : NetworkSpec.resolve request.networks = .ok config) :
    Provision.Ensures faltering (fun r _ => IfOk (Created s request) r)
      (provision settings chance request imageId config) t s := by
  refine Provision.ensures_bind.2 (ensures_createPorts_adds.mono ?_)
  rintro ⟨r, t⟩ _ hr
  cases r with
  | error e => trivial
  | ok config' =>
    obtain ⟨ports, hports, hfresh, rfl, rfl⟩ := hr
    let r := serverRequest settings chance request imageId
      (config.assignPorts (Network.record config.manualNetworks ports))
    refine Provision.ensures_bind_ok (ensures_ask_ok (c := .createServer r)
      (Q := fun server s' => server = (s.addPorts ports).serverFor r ∧
        s' = (s.addPorts ports).boot r) (fun server s' hs => ?_) _) ?_
    · cases hs
      exact ⟨rfl, rfl⟩
    rintro server _ ⟨rfl, rfl⟩
    refine Provision.ensures_bind.2 (Provision.ensures_trackServer.2 ?_)
    refine Provision.ensures_bind_ok (ensures_configureFloating_unchanged _ _) ?_
    rintro _ _ rfl
    refine Provision.ensures_bind_ok ensures_registerMembers_adds ?_
    rintro _ _ ⟨members, hmembers, hfresh', rfl, rfl⟩
    refine Provision.ensures_bind_ok (ensures_tagMemberships_tags
      (Table.get?_insert_self _ _ _) rfl) ?_
    rintro _ _ rfl
    have hip : (config.assignPorts (Network.record config.manualNetworks ports)).defaultNetwork.ip =
        config.defaultNetwork.ip := by
      rw [NetworkConfig.assignPorts_eq, Network.assignPorts_eq]
    rw [hip] at hmembers
    have hcreation : Creation s request r config ports members :=
      ⟨rfl, hconfig, hports, hfresh, hmembers, hfresh'⟩
    have hportIds : r.networks.portIds = ports.map (·.id) :=
      (congrArg NetworkConfig.portIds hcreation.assignPorts_eq).trans
        (Network.filterMap_equip hports.length_eq)
    refine ⟨r, config, ports, members, hcreation, rfl, ?_⟩
    simp only [equip, boot, addPorts, addMembers, Table.insert_insert, hportIds, Creation.server]

theorem ensures_attemptVm_creates {chance : Chance} {request : VmRequest} {t : Trail} :
    Provision.Ensures faltering (fun r _ => IfOk (Created s request) r)
      (attemptVm settings chance request) t s := by
  have hopen {service : Service} {title : String} :
      (ask (.openService service) title).run.Ensures faltering (IfOk fun _ s' => s' = s) s :=
    ensures_ask_ok (c := .openService service)
      (fun _ _ hs => (Prod.mk.inj (Except.ok.inj hs)).2.symm) _
  refine Provision.ensures_bind_ok hopen ?_
  rintro _ _ rfl
  refine Provision.ensures_bind_ok hopen ?_
  rintro _ _ rfl
  refine Provision.ensures_bind_ok hopen ?_
  rintro _ _ rfl
  refine Provision.ensures_bind_ok hopen ?_
  rintro _ s rfl
  refine Provision.ensures_bind_ok (R := fun _ s' => s' = s)
    (ensures_ask_ok (c := .getImage _) (fun _ _ hs => (unchanged_ok hs).2) _) ?_
  rintro imageId s rfl
  refine Provision.ensures_bind_ok
    (R := fun config s' => NetworkSpec.resolve request.networks = .ok config ∧ s' = s)
    (ensures_ask_ok (c := .resolveNetworks _ _) (fun _ _ hs => unchanged_ok hs) _) ?_
  rintro config s ⟨hconfig, rfl⟩
  exact ensures_provision_creates hconfig

theorem ensures_createVm_creates {chance : Chance} {request : VmRequest} :
    (createVm settings chance request).run.Ensures faltering (IfOk (Created s request)) s := by
  rw [createVm_run]
  refine Program.ensures_bind.2 (ensures_attemptVm_creates.mono ?_)
  rintro ⟨r, t⟩ s' hr
  cases r with
  | ok vm => exact hr
  | error e =>
    exact ensures_conclude_error (dropTrail_of_forall (fun _ _ _ => trivial) fun _ => trivial)

theorem ensures_createVm_equips (h₀ : Unclaimed s) {chance : Chance} {request : VmRequest} :
    (createVm settings chance request).run.Ensures faltering (IfOk (Equipped s request)) s :=
  ensures_createVm_creates.mono fun r _ h => by
    cases r with
    | error e => trivial
    | ok vm => exact Created.equipped h h₀

/-- Whatever fails on the way, a creation that succeeds adds the server that was asked for,
    its ports and its members of pools, and nothing else. -/
theorem createVm_equips (settings : Settings) (chance : Chance) (request : VmRequest)
    (schedule : Schedule) (now n : Nat) (cloud : Cloud) (h₀ : Unclaimed cloud.resources) :
    let o := (createVm settings chance request).run.run schedule.backend now (n, cloud)
    ∀ vm, o.result = .ok vm → Equipped cloud.resources request vm o.state.2.resources := by
  intro o vm hvm
  have hequipped : IfOk (Equipped cloud.resources request) o.result o.state.2.resources :=
    (Schedule.ensures_of_faltering (ensures_createVm_equips h₀)).of_run
  rw [hvm] at hequipped
  exact hequipped

/-- A request for a server on three networks, two of which need a port, and in two pools. -/
def twinRequest : VmRequest where
  agentId := "agent"
  stemcellId := "image"
  properties := { instanceType := "small", pools := [⟨"web", 80, none⟩, ⟨"web", 443, none⟩] }
  networks := .ofList [
    ("private", { kind := .manual, ip := some "10.0.0.2" }),
    ("public", { kind := .manual, ip := some "10.0.1.2", defaultFor := ["gateway"] }),
    ("leased", { kind := .dynamic })]
  diskIds := []
  environment := .null

/-- Every other call for a port or a member is refused. -/
def refusingEveryOther : Schedule
  | n, .createPort _ _ | n, .createMember _ _ _ _ _ =>
    if n % 2 = 0 then some (.api "busy") else none
  | _, _ => none

theorem unclaimed_busyCloud : Unclaimed busyCloud.resources where
  toUnused := orderly_busyCloud.unused
  members _ := rfl

/-- Calls are repeated until each network has its port and each binding its member. -/
theorem createVm_equips_twin :
    let o := (createVm {} default twinRequest).run.run refusingEveryOther.backend 0 (0, busyCloud)
    ∃ vm, o.result = .ok vm ∧ vm.vmId = "server-3" ∧
      vm.networks.defaultNetwork.portId = some "port-2" ∧
      vm.networks.portIds = ["port-1", "port-2"] ∧
      o.state.2.resources.members.keys = ["member-4", "member-5"] ∧ o.time = 9000 ∧
      Equipped busyCloud.resources twinRequest vm o.state.2.resources := by
  intro o
  have hshape : o.result.toOption.map (fun vm =>
      (vm.vmId, vm.networks.defaultNetwork.portId, vm.networks.portIds)) =
      some ("server-3", some "port-2", ["port-1", "port-2"]) := by decide +kernel
  have hmembers : o.state.2.resources.members.keys = ["member-4", "member-5"] := by decide +kernel
  have htime : o.time = 9000 := by decide +kernel
  obtain ⟨vm, hvm, hshape⟩ := Option.map_eq_some_iff.1 hshape
  obtain ⟨hvmId, hshape⟩ := Prod.mk.inj hshape
  obtain ⟨hdefault, hports⟩ := Prod.mk.inj hshape
  have hok := eq_ok_of_toOption hvm
  exact ⟨vm, hok, hvmId, hdefault, hports, hmembers, htime, createVm_equips {} default twinRequest
    refusingEveryOther 0 0 busyCloud unclaimed_busyCloud vm hok⟩

end Lifecycle

end CloudProvider
