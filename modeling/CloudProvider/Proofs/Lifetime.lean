import CloudProvider.Proofs.Assembly
import CloudProvider.Proofs.Deletion
import CloudProvider.Proofs.Loosening

/-!
# Nothing outlives its server

Whatever is done to a cloud between the creation of a server and its deletion, the deletion
finds all that was created with the server. Nothing of it is left then; and if nothing is
done in between, everything is what it was before.

* `Gone`, `Restored`: what is left of a server;
* `serve_deleteVm_traceable`: what belongs to a server goes with it;
* `Session.perform`: any sequence of operations;
* `Session.deleteVm_undoes_createVm`: the deletion undoes the creation.
-/

namespace CloudProvider

open Lifecycle Resources

variable {s₀ s₁ s : Resources} {p : Progress} {ms : List Membership} {vmId : String}
  {portIds memberIds : List String} {settings : Settings}

/-! ## What is left -/

/-- Nothing is left of a server, nor of the ports and the members of pools that were
    created with it, and no volume is attached to it. -/
structure Gone (vmId : String) (before created s : Resources) : Prop where
  server : s.servers.get? vmId = none
  ports {id} : created.ports.contains id = true → before.ports.get? id = none →
    s.ports.get? id = none
  members {id} : created.members.contains id = true → before.members.get? id = none →
    s.members.get? id = none
  unattached : s.attachmentsTo vmId = []

/-- Everything that a server may bring with it or hold is what it was before. -/
structure Restored (before s : Resources) : Prop where
  servers : s.servers = before.servers
  ports : s.ports = before.ports
  serverPorts : s.serverPorts = before.serverPorts
  members : s.members = before.members
  volumes : s.volumes = before.volumes
  snapshots : s.snapshots = before.snapshots

/-! ## Deletion -/

/-- The deletion of a server finds its memberships by their tags. -/
theorem serve_deleteVm_traceable (h : s.Traceable vmId portIds ms)
    (hms : ∀ m ∈ ms, Membership.ofTag? m.tag = some m) (settings : Settings) :
    ∃ memberIds, (deleteVm settings vmId).serve s = (.ok (), s.dismantle vmId memberIds) ∧
      ∀ id, id ∈ memberIds ↔ id ∈ ms.map (·.memberId) := by
  obtain ⟨server, hserver, htags⟩ := h.tagged
  obtain ⟨decoded, hdecoded, hmem⟩ := Membership.ofMetadata_of_tags hms htags vmId
  refine ⟨_, serve_deleteVm hserver hdecoded, fun id => ?_⟩
  have hmap : decoded.map (·.2.memberId) = (decoded.map (·.2)).map (·.memberId) :=
    (List.map_map ..).symm
  simp only [hmap, List.mem_map, hmem]

/-- The ports of a server go with it, those that are gone already included. -/
theorem get?_ports_dismantle (h : s.Traceable vmId portIds ms) {id : String}
    (hid : id ∈ portIds) : (s.dismantle vmId memberIds).ports.get? id = none := by
  refine (Table.get?_eraseAll _ _ _).trans ?_
  split
  · rfl
  · rename_i hkept
    refine Option.eq_none_iff_forall_ne_some.2 fun port hport => hkept ?_
    rw [Resources.portsOf, h.plugged]
    exact List.mem_map.2 ⟨port, List.mem_filterMap.2 ⟨id, hid, hport⟩, h.named hid hport⟩

theorem gone_dismantle (hbuilt : Assembled s₀ p ms s₁)
    (h : s.Traceable vmId (p.ports.map (·.id)) ms)
    (hmemberIds : ∀ id, id ∈ memberIds ↔ id ∈ ms.map (·.memberId)) :
    Gone vmId s₀ s₁ (s.dismantle vmId memberIds) where
  server := Table.get?_erase_self _ _
  ports {id} hcreated hbefore := by
    -- A port that is not one of the server's was there before.
    by_cases hid : id ∈ p.ports.map (·.id)
    · exact get?_ports_dismantle h hid
    · rw [← hbuilt.ports, Table.get?_eraseAll, if_neg hid] at hbefore
      rw [Table.contains_of_none hbefore] at hcreated
      cases hcreated
  members {id} hcreated hbefore := by
    by_cases hid : id ∈ ms.map (·.memberId)
    · exact (Table.get?_eraseAll _ _ _).trans (if_pos ((hmemberIds id).2 hid))
    · rw [← hbuilt.joined, Table.get?_eraseAll, if_neg hid] at hbefore
      rw [Table.contains_of_none hbefore] at hcreated
      cases hcreated
  unattached := attachmentsTo_releaseFrom rfl

/-- As long as all ports of a server exist, these are the ports that go with it. -/
theorem map_portsOf (hplugged : s.serverPorts.get? vmId = some portIds)
    (hplaced : ∀ id ∈ portIds, ∃ port, s.ports.get? id = some port ∧ port.id = id) :
    (s.portsOf vmId).map (·.id) = portIds := by
  rw [Resources.portsOf, hplugged, Option.getD_some]
  clear hplugged
  induction portIds with
  | nil => rfl
  | cons id portIds ih =>
    obtain ⟨port, hport, hid⟩ := hplaced id List.mem_cons_self
    rw [List.filterMap_cons_some hport, List.map_cons, hid,
      ih fun id hid => hplaced id (List.mem_cons_of_mem _ hid)]

theorem restored_dismantle (h₀ : Orderly s₀) (hbuilt : Assembled s₀ p ms s₁)
    (hp : p.serverId = some vmId) (h : s₁.Traceable vmId (p.ports.map (·.id)) ms)
    (hmemberIds : ∀ id, id ∈ memberIds ↔ id ∈ ms.map (·.memberId)) :
    Restored s₀ (s₁.dismantle vmId memberIds) := by
  have hservers : s₁.servers.erase vmId = s₀.servers := by simpa [hp] using hbuilt.servers
  have hserverPorts : s₁.serverPorts.erase vmId = s₀.serverPorts := by
    simpa [hp] using hbuilt.serverPorts
  have hfresh : s₀.servers.get? vmId = none := by
    rw [← hservers, Table.get?_erase_self]
  exact {
    servers := hservers
    ports := by
      rw [dismantle, map_portsOf h.plugged hbuilt.placed]
      exact hbuilt.ports
    serverPorts := hserverPorts
    members := (Table.eraseAll_congr _ hmemberIds).trans hbuilt.joined
    volumes := by
      rw [dismantle, hbuilt.volumes]
      exact Built.map_releaseFrom h₀ hfresh
    snapshots := hbuilt.snapshots }

/-! ## Sessions -/

namespace Session

/-- A session after some operations, one after the other. -/
def perform (settings : Settings) (commands : List (Command × Chance)) (s : Session) : Session :=
  commands.foldl (fun s c => (s.run (c.1.operation settings c.2)).2) s

variable {s : Session}

theorem traceable_perform (settings : Settings) (hs : s.Calm)
    (h : s.cloud.resources.Traceable vmId portIds ms)
    {commands : List (Command × Chance)} (hcommands : ∀ c ∈ commands, c.1.Spares vmId) :
    (s.perform settings commands).Calm ∧
      (s.perform settings commands).cloud.resources.Traceable vmId portIds ms := by
  induction commands generalizing s with
  | nil => exact ⟨hs, h⟩
  | cons c commands ih =>
    obtain ⟨hc, hcommands⟩ := List.forall_mem_cons.1 hcommands
    obtain ⟨-, hserved⟩ := s.run_of_calm hs (c.1.operation settings c.2)
    have hkept := (h.ensures_operation settings c.2 hc).of_serve
    exact ih hserved.calm (hserved.resources.symm ▸ hkept) hcommands

theorem complete_of_run {chance : Chance} {request : VmRequest} {vm : CreatedVm} (hs : s.Calm)
    (h₀ : Receptive s.cloud.resources)
    (hvm : (s.run (createVm settings chance request)).1 = .ok vm) :
    (s.run (createVm settings chance request)).2.Calm ∧
      Complete s.cloud.resources vm
        (s.run (createVm settings chance request)).2.cloud.resources := by
  obtain ⟨hresult, hserved⟩ := s.run_of_calm hs (createVm settings chance request)
  have hcomplete : IfOk (Complete s.cloud.resources)
      ((createVm settings chance request).serve s.cloud.resources).1
      ((createVm settings chance request).serve s.cloud.resources).2 :=
    (ensures_createVm_ok h₀).serving_of_faltering.of_serve
  rw [← hresult, hvm, ← hserved.resources] at hcomplete
  exact ⟨hserved.calm, hcomplete⟩

theorem run_deleteVm_traceable (settings : Settings) (hs : s.Calm)
    (h : s.cloud.resources.Traceable vmId portIds ms)
    (hms : ∀ m ∈ ms, Membership.ofTag? m.tag = some m) :
    ∃ memberIds, (∀ id, id ∈ memberIds ↔ id ∈ ms.map (·.memberId)) ∧
      (s.run (deleteVm settings vmId)).1 = .ok () ∧
      (s.run (deleteVm settings vmId)).2.cloud.resources =
        s.cloud.resources.dismantle vmId memberIds := by
  obtain ⟨memberIds, hserve, hmemberIds⟩ := serve_deleteVm_traceable h hms settings
  obtain ⟨hresult, hserved⟩ := s.run_of_calm hs (deleteVm settings vmId)
  rw [hserve] at hresult hserved
  exact ⟨memberIds, hmemberIds, hresult, hserved.resources⟩

/-- Whatever is done in between, as long as it spares the server, a deletion succeeds and
    leaves nothing of what was created with the server. Right after the creation it leaves
    what was there before. -/
theorem deleteVm_undoes_createVm (settings : Settings) (chance : Chance) (request : VmRequest)
    (hs : s.Calm) (h₀ : Receptive s.cloud.resources) {vm : CreatedVm}
    (hvm : (s.run (createVm settings chance request)).1 = .ok vm) :
    let s₁ := (s.run (createVm settings chance request)).2
    (∀ commands : List (Command × Chance), (∀ c ∈ commands, c.1.Spares vm.vmId) →
      let o := (s₁.perform settings commands).run (deleteVm settings vm.vmId)
      o.1 = .ok () ∧
        Gone vm.vmId s.cloud.resources s₁.cloud.resources o.2.cloud.resources) ∧
      ((∀ id v, s.cloud.resources.volumes.get? id = some v → v.status = .inUse →
          v.attachments ≠ []) →
        let o := s₁.run (deleteVm settings vm.vmId)
        o.1 = .ok () ∧ Restored s.cloud.resources o.2.cloud.resources) := by
  intro s₁
  obtain ⟨hcalm, p, ms, hp, hbuilt, htraceable⟩ := complete_of_run hs h₀ hvm
  refine ⟨fun commands hcommands => ?_, fun hheld => ?_⟩
  · obtain ⟨hcalm, h⟩ := traceable_perform settings hcalm htraceable hcommands
    obtain ⟨memberIds, hmemberIds, hok, hresources⟩ :=
      run_deleteVm_traceable settings hcalm h hbuilt.written
    exact ⟨hok, hresources ▸ gone_dismantle hbuilt h hmemberIds⟩
  · obtain ⟨memberIds, hmemberIds, hok, hresources⟩ :=
      run_deleteVm_traceable settings hcalm htraceable hbuilt.written
    have horderly : Orderly s.cloud.resources :=
      { h₀ with held := fun {id v} => hheld id v }
    exact ⟨hok, hresources ▸ restored_dismantle horderly hbuilt hp htraceable hmemberIds⟩

/-- A request for a server on two networks with ports and in eleven places in a pool. -/
def crowdedRequest : VmRequest where
  agentId := "agent"
  stemcellId := "image"
  properties := { instanceType := "small", pools := List.replicate 11 ⟨"web", 80, none⟩ }
  networks := .ofList [
    ("private", { kind := .manual, ip := some "10.0.0.2" }),
    ("public", { kind := .manual, ip := some "10.0.1.2", defaultFor := ["gateway"] })]
  diskIds := []
  environment := .null

/-- A session with all that the request needs, and with a server that holds a volume. -/
def crowdedSession : Session where
  cloud := busyCloud.seed (·.addFlavor ⟨"1", "small", 1, 1024, 10, 0, 0⟩)

theorem receptive_crowdedSession : Receptive crowdedSession.cloud.resources where
  servers := orderly_busyCloud.servers
  serverPorts := orderly_busyCloud.serverPorts
  ports := orderly_busyCloud.ports
  members _ := rfl
  volumes := by
    intro id hid
    have hne : id ≠ "disk" := by
      rintro rfl
      exact absurd hid.prefix_id (by decide)
    exact Table.get?_insert_of_ne ∅ _ hne
  attached := orderly_busyCloud.attached
  pools := by
    intro name pool hpool
    obtain rfl := Table.eq_of_get?_singleton hpool rfl
    exact ⟨by decide, by decide⟩

/-- What happens to the server before it is deleted: it gets a neighbour in the pool,
    metadata and a disk, and the neighbour goes again. -/
def crowdedHistory : List (Command × Chance) :=
  [(.createVm pooledRequest, default),
    (.setVmMetadata "server-3" (.ofList [("job", .string "web")]), default),
    (.createDisk 1024 {} none, default),
    (.attachDisk "server-3" "volume-18", default),
    (.deleteVm "server-16", default)]

theorem spares_crowdedHistory : ∀ c ∈ crowdedHistory, c.1.Spares "server-3" := by
  have hmetadata (name : String) (hname : Membership.isTagName name = true) :
      (Table.ofList [("job", Json.string "web")]).get? name = none := by
    have hne : name ≠ "job" := by
      rintro rfl
      exact absurd hname (by decide)
    exact Table.get?_insert_of_ne ∅ _ hne
  simpa [crowdedHistory, Command.Spares] using hmetadata

/-- Eleven tags are read back, two ports go, and the disk is attached no more. -/
theorem deleteVm_undoes_createVm_crowded :
    let o := crowdedSession.run (createVm {} default crowdedRequest)
    let s := o.2.perform {} crowdedHistory
    let final := s.run (deleteVm {} "server-3")
    let back := o.2.run (deleteVm {} "server-3")
    o.1.toOption.map (·.vmId) = some "server-3" ∧
      o.2.cloud.resources.members.size = 11 ∧ o.2.cloud.resources.ports.size = 2 ∧
      (s.cloud.resources.attachmentsTo "server-3").length = 1 ∧
      final.1 = .ok () ∧ Gone "server-3" crowdedSession.cloud.resources o.2.cloud.resources
        final.2.cloud.resources ∧
      back.1 = .ok () ∧ Restored crowdedSession.cloud.resources back.2.cloud.resources := by
  intro o
  have hid : o.1.toOption.map (·.vmId) = some "server-3" := by decide +kernel
  have hmembers : o.2.cloud.resources.members.size = 11 := by decide +kernel
  have hports : o.2.cloud.resources.ports.size = 2 := by decide +kernel
  have hattached : ((o.2.perform {} crowdedHistory).cloud.resources.attachmentsTo
      "server-3").length = 1 := by decide +kernel
  obtain ⟨vm, hvm, hvmId⟩ := Option.map_eq_some_iff.1 hid
  have hundone := deleteVm_undoes_createVm {} default crowdedRequest
    (s := crowdedSession) ⟨rfl, rfl, rfl, rfl, rfl, rfl⟩ receptive_crowdedSession
    (eq_ok_of_toOption hvm)
  rw [hvmId, show crowdedSession.run (createVm {} default crowdedRequest) = o from rfl] at hundone
  -- From here on it does not matter what the creation was.
  clear_value o
  obtain ⟨hfinal, hgone⟩ := hundone.1 crowdedHistory spares_crowdedHistory
  obtain ⟨hback, hrestored⟩ := hundone.2 fun _ _ => orderly_busyCloud.held
  exact ⟨hid, hmembers, hports, hattached, hfinal, hgone, hback, hrestored⟩

end Session

end CloudProvider
