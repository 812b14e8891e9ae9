import CloudProvider.Proofs.Equipment
import CloudProvider.Proofs.Traceable

/-!
# What a creation builds

A server with its equipment can be taken away again (`Assembled`), and all that belongs to
it can be found from the server (`Traceable`): the cloud remembers the ports that were
recorded on its networks, and the tags are those of its memberships.

* `assembled_equip`, `traceable_equip`: what the equipment of a server comes to;
* `ensures_createVm_ok`: a creation leaves nothing else.
-/

namespace CloudProvider

open Program Resources

namespace Lifecycle

open Operation

/-! ## What has been put in place -/

/-- What a server can be created in without anything being overwritten: no id is in use
    that is to be given out, volumes are attached to servers that exist, and the ids of
    pools can be written into tags. -/
structure Receptive (s : Resources) : Prop extends Unused s where
  members {id} : s.Unissued "member" id → s.members.get? id = none
  volumes {id} : s.Unissued "volume" id → s.volumes.get? id = none
  attached {id v} : s.volumes.get? id = some v → ∀ a ∈ v.attachments, s.servers.contains a.serverId
  /-- The id of a pool that is offered begins with `pool-`, so it is never empty. -/
  pools {name pool} : s.pools.get? name = some pool → pool.id ≠ "" ∧ '/' ∉ pool.id.toList

theorem Receptive.unclaimed {s : Resources} (h : Receptive s) : Unclaimed s := { h with }

/-- What has been built is what the progress says, and members of pools, every one of
    which can be remembered. -/
structure Assembled (s₀ : Resources) (p : Progress) (ms : List Membership) (s : Resources) :
    Prop extends Built s₀ p s where
  pools : s.pools = s₀.pools
  placed : ∀ id ∈ p.ports.map (·.id), ∃ port, s.ports.get? id = some port ∧ port.id = id
  joined : s.members.eraseAll (ms.map (·.memberId)) = s₀.members
  written : ∀ m ∈ ms, Membership.ofTag? m.tag = some m

/-- A server that was created with everything that belongs to it. -/
def Complete (s₀ : Resources) (vm : CreatedVm) (s : Resources) : Prop :=
  ∃ (p : Progress) (ms : List Membership), p.serverId = some vm.vmId ∧ Assembled s₀ p ms s ∧
    s.Traceable vm.vmId (p.ports.map (·.id)) ms

/-! ## Equipment -/

variable {s : Resources} {request : VmRequest} {vm : CreatedVm} {server : Server}
  {ports : List Port} {members : List PoolMember}

/-- All that is to be taken away is the server, its ports and its members. -/
theorem built_equip (h : Equipment s request vm server ports members) :
    Built s { serverId := some server.id, ports := ports } (s.equip server ports members) where
  issued := Nat.le_add_right_of_le (Nat.le_succ_of_le (Nat.le_add_right _ _))
  servers := s.servers.erase_insert _ h.newServer.1
  serverPorts := s.serverPorts.erase_insert _ h.newServer.2
  server {id} hid := by
    obtain rfl : server.id = id := Option.some.inj hid
    exact Table.contains_of_some (Table.get?_insert_self _ _ _)
  ports := Table.eraseAll_insertAll (List.forall_mem_map.2 h.newPorts)
  volumes := rfl
  snapshots := rfl
  members id := by
    by_cases hid : id ∈ members.map (·.id)
    · obtain ⟨m, hm, rfl⟩ := List.mem_map.1 hid
      exact .inr ⟨h.freshMembers.unissued _ hid,
        Table.contains_of_some (s.members.get?_insertAll_of_mem h.freshMembers.distinct hm)⟩
    · exact .inl (s.members.get?_insertAll_of_notMem hid)

/-- What is remembered about a new member can be read back. -/
theorem ofTag?_membership (h₀ : Receptive s) (h : Equipment s request vm server ports members)
    {m : PoolMember} (hm : m ∈ members) :
    Membership.ofTag? m.membership.tag = some m.membership := by
  obtain ⟨i, hi, hget⟩ := List.mem_iff_getElem.1 hm
  obtain ⟨hlength, hjoined⟩ := List.forall₂_iff_get.1 h.joined
  obtain ⟨⟨pool, hpool, hpoolId⟩, -⟩ := hjoined i (hlength ▸ hi) hi
  obtain ⟨hne, hslash⟩ := h₀.pools hpool
  obtain rfl : members.get ⟨i, hi⟩ = m := hget
  rw [← hpoolId] at hne hslash
  refine Membership.ofTag?_tag_iff.2 ⟨hne, hslash, fun hempty => ?_⟩
  -- The id of a member begins with what it is.
  have hprefix := (h.freshMembers.unissued _ (List.mem_map_of_mem hm)).prefix_id
  rw [show (members.get ⟨i, hi⟩).id = "" from hempty] at hprefix
  exact absurd hprefix (by decide)

theorem assembled_equip (h₀ : Receptive s) (h : Equipment s request vm server ports members) :
    Assembled s { serverId := some server.id, ports := ports }
      (members.map PoolMember.membership) (s.equip server ports members) where
  toBuilt := built_equip h
  pools := rfl
  placed := List.forall_mem_map.2 fun port hport =>
    ⟨port, s.ports.get?_insertAll_of_mem h.freshPorts.distinct hport, rfl⟩
  joined := by
    rw [List.map_map]
    exact Table.eraseAll_insertAll (List.forall_mem_map.2 h.newMembers)
  written := List.forall_mem_map.2 fun _ hm => ofTag?_membership h₀ h hm

theorem traceable_equip (h : Equipment s request vm server ports members) :
    (s.equip server ports members).Traceable server.id (ports.map (·.id))
      (members.map PoolMember.membership) where
  tagged := by
    refine ⟨server, Table.get?_insert_self _ _ _, fun name _ => Option.ext fun value => ?_⟩
    exact (h.metadata name value).trans (get?_tags_membership members name value).symm
  plugged := Table.get?_insert_self _ _ _
  named hid hport := by
    obtain ⟨port, hmem, rfl⟩ := List.mem_map.1 hid
    have hget := s.ports.get?_insertAll_of_mem h.freshPorts.distinct hmem
    exact Option.some.inj (hport.symm.trans hget) ▸ rfl
  issued := by
    rw [h.serverId]
    exact not_unissued_nextId (Nat.lt_add_right _ (Nat.lt_succ_self _))

/-- A creation that succeeds puts a server into the resources with everything that
    belongs to it, and nothing else. -/
theorem ensures_createVm_ok {settings : Settings} {chance : Chance} (h₀ : Receptive s) :
    (createVm settings chance request).run.Ensures faltering (IfOk (Complete s)) s := by
  refine (ensures_createVm_equips h₀.unclaimed).mono fun r s' hr => ?_
  cases r with
  | error e => trivial
  | ok vm =>
    obtain ⟨server, ports, members, rfl, h⟩ := hr
    have hassembled := assembled_equip h₀ h
    have htraceable := traceable_equip h
    rw [h.vmId] at hassembled htraceable
    exact ⟨_, _, rfl, hassembled, htraceable⟩

end Lifecycle

end CloudProvider
