import CloudProvider.Proofs.Attachment
import CloudProvider.Proofs.Deletion
import CloudProvider.Proofs.Success
import CloudProvider.Proofs.Tags

/-!
# What belongs to a server

A deletion sweeps over all volumes and goes through the tags of its server, and it may stop
anywhere on the way. Wherever it stops, it has touched nothing but what belongs to the server:
the server itself, the ports that are listed for it, the members that its tags name, and its
attachments.

* `Resources.ListsPort`, `Resources.TagsMember`, `Volume.ReleasedFrom`: what belongs to a
  server;
* `OnlyOwn`: nothing else has been touched;
* `OnlyOwn.deleteMember`, `OnlyOwn.deleteServer`, `OnlyOwn.deletePorts`: the steps that touch
  something;
* `deleteVm_touches_only_own`: nor has a deletion, however it ends.
-/

namespace CloudProvider

open Program

/-! ## What belongs to a server -/

/-- A volume that has lost its attachments to a server, of which it had some. It keeps all
    others in their order, and becomes available if it was in use and there are none. -/
structure Volume.ReleasedFrom (vmId : String) (v v' : Volume) : Prop where
  held : ∃ a ∈ v.attachments, a.serverId = vmId
  attachments : v'.attachments = v.attachments.filter (·.serverId ≠ vmId)
  status : v'.status =
    if v.status = .inUse ∧ v'.attachments = [] then .available else v.status
  kept : v' = { v with attachments := v'.attachments, status := v'.status }

namespace Resources

variable {s : Resources} {vmId id : String} {v v' : Volume}

/-- A port of this id is among those that are listed for a server and exist. -/
def ListsPort (s : Resources) (vmId id : String) : Prop :=
  ∃ key ∈ (s.serverPorts.get? vmId).getD [], ∃ port, s.ports.get? key = some port ∧ port.id = id

/-- A tag of a server stands for a membership of this member. -/
def TagsMember (s : Resources) (vmId id : String) : Prop :=
  ∃ server name value m, s.servers.get? vmId = some server ∧
    server.metadata.get? name = some value ∧ Membership.isTagName name = true ∧
      Membership.ofTag? value = some m ∧ m.memberId = id

theorem listsPort_of_mem {port : Port} (h : port ∈ s.portsOf vmId) : s.ListsPort vmId port.id := by
  obtain ⟨key, hkey, hport⟩ := List.mem_filterMap.1 h
  exact ⟨key, hkey, port, hport, rfl⟩

theorem releasedFrom_releaseFrom (h : ∃ a ∈ v.attachments, a.serverId = vmId) :
    v.ReleasedFrom vmId (releaseFrom vmId v) where
  held := h
  attachments := rfl
  status := by
    simp [releaseFrom, and_comm]
  kept := rfl

/-- A volume is released only once. -/
theorem releaseFrom_of_releasedFrom (h : v.ReleasedFrom vmId v') : releaseFrom vmId v' = v' := by
  refine releaseFrom_eq_self (fun a ha => ?_) fun hinUse hnone => ?_
  · rw [h.attachments] at ha
    exact of_decide_eq_true (List.mem_filter.1 ha).2
  · rw [h.status] at hinUse
    split at hinUse
    · cases hinUse
    · rename_i hnot
      exact hnot ⟨hinUse, hnone⟩

end Resources

/-- A membership that was read comes from a tag that stands for it. -/
theorem Membership.exists_of_mem_ofEntries {vmId : String} {l : List (String × String)}
    {memberships : List (String × Membership)} (h : ofEntries vmId l = .ok memberships)
    {e : String × Membership} (he : e ∈ memberships) :
    ∃ value, (e.1, value) ∈ l ∧ ofTag? value = some e.2 := by
  induction l generalizing memberships with
  | nil =>
    cases h
    cases he
  | cons entry l ih =>
    obtain ⟨name, value⟩ := entry
    obtain ⟨m, rest, hm, hrest, rfl⟩ := ofEntries_cons_ok h
    rcases List.mem_cons.1 he with rfl | he
    · exact ⟨value, List.mem_cons_self, hm⟩
    · obtain ⟨value', hmem, hvalue'⟩ := ih hrest he
      exact ⟨value', List.mem_cons_of_mem _ hmem, hvalue'⟩

theorem Resources.tagsMember_of_mem {s : Resources} {vmId : String} {server : Server}
    {memberships : List (String × Membership)} (hserver : s.servers.get? vmId = some server)
    (h : Membership.ofMetadata vmId server.metadata = .ok memberships)
    {e : String × Membership} (he : e ∈ memberships) : s.TagsMember vmId e.2.memberId := by
  obtain ⟨value, hmem, hvalue⟩ := Membership.exists_of_mem_ofEntries h he
  obtain ⟨hentry, hname⟩ := List.mem_filter.1 hmem
  exact ⟨server, e.1, value, e.2, hserver, Table.mem_entries.1 hentry, hname, hvalue, rfl⟩

/-- Nothing has been touched but what belongs to a server. -/
structure OnlyOwn (vmId : String) (s s' : Resources) : Prop where
  servers id : s'.servers.get? id = s.servers.get? id ∨ id = vmId ∧ s'.servers.get? id = none
  serverPorts id :
    s'.serverPorts.get? id = s.serverPorts.get? id ∨ id = vmId ∧ s'.serverPorts.get? id = none
  ports id :
    s'.ports.get? id = s.ports.get? id ∨ s.ListsPort vmId id ∧ s'.ports.get? id = none
  members id :
    s'.members.get? id = s.members.get? id ∨ s.TagsMember vmId id ∧ s'.members.get? id = none
  volumes id : s'.volumes.get? id = s.volumes.get? id ∨
    ∃ v v', s.volumes.get? id = some v ∧ v.ReleasedFrom vmId v' ∧ s'.volumes.get? id = some v'
  snapshots : s'.snapshots = s.snapshots
  flavors : s'.flavors = s.flavors
  images : s'.images = s.images
  pools : s'.pools = s.pools
  pinnedStatuses : s'.pinnedStatuses = s.pinnedStatuses
  reportedDevices : s'.reportedDevices = s.reportedDevices
  issued : s'.issued = s.issued

namespace OnlyOwn

open Resources

variable {vmId : String} {s s' s'' : Resources}

theorem refl (vmId : String) (s : Resources) : OnlyOwn vmId s s where
  servers _ := .inl rfl
  serverPorts _ := .inl rfl
  ports _ := .inl rfl
  members _ := .inl rfl
  volumes _ := .inl rfl
  snapshots := rfl
  flavors := rfl
  images := rfl
  pools := rfl
  pinnedStatuses := rfl
  reportedDevices := rfl
  issued := rfl

/-! ## Steps -/

theorem deleteMember {poolId memberId : String} {seconds : Nat} {a : Unit}
    (h : OnlyOwn vmId s s') (hmember : s.TagsMember vmId memberId)
    (hs : Resources.answer (.deleteMember poolId memberId seconds) s' = .ok (a, s'')) :
    OnlyOwn vmId s s'' := by
  cases hs
  refine { h with members := fun id => ?_ }
  rw [Table.get?_erase]
  split
  · rename_i hid
    exact .inr ⟨hid ▸ hmember, rfl⟩
  · exact h.members id

theorem deleteServer {a : Unit} (h : OnlyOwn vmId s s')
    (hheld : ∀ id v, s.volumes.get? id = some v → v.status = .inUse → v.attachments ≠ [])
    (hs : Resources.answer (.deleteServer vmId) s' = .ok (a, s'')) : OnlyOwn vmId s s'' := by
  obtain ⟨server, -, hs⟩ := find_bind_ok hs
  cases hs
  have herase {α : Type} {t t' : Table α}
      (ht : ∀ id, t'.get? id = t.get? id ∨ id = vmId ∧ t'.get? id = none) (id : String) :
      (t'.erase vmId).get? id = t.get? id ∨ id = vmId ∧ (t'.erase vmId).get? id = none := by
    rw [Table.get?_erase]
    split
    · rename_i hid
      exact .inr ⟨hid, rfl⟩
    · exact ht id
  refine { h with
    servers := herase h.servers, serverPorts := herase h.serverPorts, volumes := fun id => ?_ }
  show (s'.volumes.map (releaseFrom vmId)).get? id = _ ∨ _
  rw [Table.get?_map]
  obtain hsame | ⟨v, v', hv, hreleased, hv'⟩ := h.volumes id
  · rw [hsame]
    cases hv : s.volumes.get? id with
    | none => exact .inl rfl
    | some v =>
      by_cases hattached : ∃ a ∈ v.attachments, a.serverId = vmId
      · exact .inr ⟨v, _, rfl, releasedFrom_releaseFrom hattached, rfl⟩
      · -- A volume in use that nothing holds would become available here.
        have hself : releaseFrom vmId v = v :=
          releaseFrom_eq_self (fun a ha heq => hattached ⟨a, ha, heq⟩) (hheld id v hv)
        exact .inl (congrArg some hself)
  · rw [hv', Option.map_some, releaseFrom_of_releasedFrom hreleased]
    exact .inr ⟨v, v', hv, hreleased, rfl⟩

theorem deletePorts {ports : List Port} {a : Unit} (h : OnlyOwn vmId s s')
    (hports : ∀ port ∈ ports, s.ListsPort vmId port.id)
    (hs : Resources.answer (.deletePorts ports) s' = .ok (a, s'')) : OnlyOwn vmId s s'' := by
  have hserve := serve_deletePorts ports s'
  rw [serve_of_ok hs] at hserve
  obtain rfl := (Prod.mk.inj hserve).2
  refine { h with ports := fun id => ?_ }
  show (s'.ports.eraseAll _).get? id = _ ∨ _ ∧ (s'.ports.eraseAll _).get? id = _
  rw [Table.get?_eraseAll]
  split
  · rename_i hid
    obtain ⟨port, hport, rfl⟩ := List.mem_map.1 hid
    exact .inr ⟨hports port hport, rfl⟩
  · exact h.ports id

/-- A call that fails touches nothing. -/
theorem of_leads {c : Call} {reply : Reply c.Answer} (h : OnlyOwn vmId s s')
    (hok : ∀ a s'', Resources.answer c s' = .ok (a, s'') → OnlyOwn vmId s s'')
    (hl : faltering.leads c s' reply s'') : OnlyOwn vmId s s'' := by
  obtain ⟨a, -, hs⟩ | ⟨-, rfl⟩ := hl
  · exact hok a s'' hs
  · exact h

end OnlyOwn

/-! ## The deletion -/

namespace Lifecycle

open Operation Resources

variable {settings : Settings} {vmId : String} {s s' : Resources}

/-- What is looked up leaves the resources as they are. -/
theorem eq_of_leads_idle {c : Call} {reply : Reply c.Answer} (hc : c.isIdle = true)
    (hl : faltering.leads c s reply s') : s' = s := by
  obtain ⟨a, -, hs⟩ | ⟨-, rfl⟩ := hl
  · exact eq_of_isIdle hc hs
  · rfl

theorem ensures_openService_faltering {service : Service} {title : String}
    {f : Unit → Operation Unit} {Q : Resources → Prop} (hs : Q s)
    (hf : (f ()).run.Ensures faltering (fun _ => Q) s) :
    (openService service title >>= f).run.Ensures faltering (fun _ => Q) s := by
  refine Operation.ensures_bind.2 (ensures_ask.2 ⟨trivial, fun reply s' hl => ?_⟩)
  obtain rfl := eq_of_leads_idle rfl hl
  cases reply.outcome with
  | ok a => exact hf
  | error e => exact hs

theorem ensures_leavePools_onlyOwn {memberships : List (String × Membership)}
    (hmembers : ∀ e ∈ memberships, s.TagsMember vmId e.2.memberId)
    {Q : Except OperationError Unit → Resources → Prop}
    (herror : ∀ e s', OnlyOwn vmId s s' → Q (.error e) s')
    (hdone : ∀ s', OnlyOwn vmId s s' → Q (.ok ()) s') (hs : OnlyOwn vmId s s') :
    (leavePools settings vmId memberships).run.Ensures faltering Q s' := by
  refine ensures_leavePools (I := fun rest s' =>
    OnlyOwn vmId s s' ∧ ∀ e ∈ rest, s.TagsMember vmId e.2.memberId) ?_ ?_ ?_ ?_ ⟨hs, hmembers⟩
  · exact fun _ _ _ _ _ => trivial
  · rintro name m rest s₁ took a s₂ ⟨h, hrest⟩ hl
    obtain ⟨hm, hrest⟩ := List.forall_mem_cons.1 hrest
    exact ⟨h.of_leads (fun a s₂ => h.deleteMember hm) hl, hrest⟩
  · rintro name m rest s₁ took e s₂ ⟨h, hrest⟩ hl
    obtain ⟨a, hreply, -⟩ | ⟨-, rfl⟩ := hl
    · cases hreply
    · exact ⟨fun _ => ⟨h, (List.forall_mem_cons.1 hrest).2⟩,
        fun _ => ⟨fun context => herror _ _ h, fun _ => ⟨h, hrest⟩⟩⟩
  · exact fun s₁ h => hdone s₁ h.1

/-- The ports that are found to be deleted are listed for the server. -/
theorem listsPort_of_leads {reply : Reply (List Port)}
    (hl : faltering.leads (.getPorts vmId) s reply s') :
    ∀ port ∈ reply.outcome.toOption.getD [], s.ListsPort vmId port.id := by
  obtain ⟨ports, hreply, hs⟩ | ⟨⟨e, hreply⟩, -⟩ := hl
  · cases hs
    rw [hreply]
    exact fun port hport => listsPort_of_mem hport
  · rw [hreply]
    exact fun port hport => absurd hport List.not_mem_nil

/-- The memberships that are found to be left are those of tags of the server. -/
theorem tagsMember_of_leads {reply : Reply Metadata} {metadata : Metadata}
    {fault : CloudError → OperationError} {memberships : List (String × Membership)}
    (hl : faltering.leads (.getMetadata vmId) s reply s')
    (hread : unlessAbsent ∅ fault reply.outcome = .ok metadata)
    (h : Membership.ofMetadata vmId metadata = .ok memberships) :
    ∀ e ∈ memberships, s.TagsMember vmId e.2.memberId := by
  obtain ⟨read, hreply, hs⟩ | ⟨⟨e, hreply⟩, -⟩ := hl
  · rw [hreply] at hread
    cases hread
    obtain ⟨hfound, -⟩ := unchanged_ok hs
    cases hserver : find s.servers "server" vmId with
    | error e =>
      rw [hserver] at hfound
      cases hfound
    | ok server =>
      rw [hserver] at hfound
      cases hfound
      exact fun e he => tagsMember_of_mem (find_ok hserver) h he
  · rw [hreply] at hread
    cases he : e.isNotFound with
    | true =>
      rw [unlessAbsent_of_isNotFound he] at hread
      cases hread
      cases h
      exact fun e he => absurd he List.not_mem_nil
    | false =>
      rw [unlessAbsent_of_not_isNotFound he] at hread
      cases hread

theorem ensures_deleteVm_onlyOwn (settings : Settings) (vmId : String)
    (hheld : ∀ id v, s.volumes.get? id = some v → v.status = .inUse → v.attachments ≠ []) :
    (deleteVm settings vmId).run.Ensures faltering (fun _ s' => OnlyOwn vmId s s') s := by
  have hrefl := OnlyOwn.refl vmId s
  refine ensures_openService_faltering hrefl (ensures_openService_faltering hrefl
    (ensures_openService_faltering hrefl ?_))
  refine Operation.ensures_bind.2 (ensures_portsOf.2 ⟨trivial, fun listed s₁ hlisted => ?_⟩)
  have hports := listsPort_of_leads hlisted
  rw [eq_of_leads_idle rfl hlisted]
  refine Operation.ensures_bind.2 (ensures_metadataOf.2 ⟨trivial, fun read s₂ hl => ?_⟩)
  rw [eq_of_leads_idle rfl hl]
  cases hread : unlessAbsent ∅ (.cloud ("Failed to get metadata of VM '" ++ vmId ++ "'"))
    read.outcome with
  | error e => exact hrefl
  | ok metadata =>
    refine Operation.ensures_bind.2 ?_
    show andThen _ _ _ (Membership.ofMetadata vmId metadata) _
    cases hmemberships : Membership.ofMetadata vmId metadata with
    | error e => exact hrefl
    | ok memberships =>
      refine Operation.ensures_bind.2 (ensures_leavePools_onlyOwn
        (tagsMember_of_leads hl hread hmemberships) (fun e s' h => h) (fun s' h => ?_) hrefl)
      refine Operation.ensures_bind.2 (ensures_deleteServer.2 ⟨trivial, fun reply s'' hl => ?_⟩)
      have hdeleted := h.of_leads (fun a s'' => h.deleteServer hheld) hl
      cases unlessAbsent () (.cloud ("Failed to delete VM '" ++ vmId ++ "'")) reply.outcome with
      | error e => exact hdeleted
      | ok _ =>
        refine ensures_deletePorts (fun _ => hdeleted) fun _ => ⟨trivial, fun reply s₃ hl => ?_⟩
        exact hdeleted.of_leads (fun a s₃ => hdeleted.deletePorts hports) hl

/-- However a deletion ends and whatever calls fail on the way, it touches nothing but what
    belongs to its server. -/
theorem deleteVm_touches_only_own (settings : Settings) (vmId : String) (schedule : Schedule)
    (now n : Nat) (cloud : Cloud)
    (hheld : ∀ id v, cloud.resources.volumes.get? id = some v → v.status = .inUse →
      v.attachments ≠ []) :
    OnlyOwn vmId cloud.resources
      ((deleteVm settings vmId).run.run schedule.backend now (n, cloud)).state.2.resources := by
  have hensures := ensures_deleteVm_onlyOwn settings vmId hheld
  exact (Schedule.ensures_of_faltering hensures).of_run

/-- A volume that two servers share. -/
def sharedVolume : Volume where
  id := "disk"
  name := "disk"
  sizeGib := 10
  status := .inUse
  attachments := [⟨"disk", "vm-b", "/dev/sdb"⟩, ⟨"disk", "vm-a", "/dev/sdc"⟩]
  metadata := ∅
  zone := none

/-- A cloud with a server in a pool, with a port, and with a volume that it shares. -/
def sharingCloud : Cloud :=
  { resources :=
      { pooledServer.addServer "vm-b" "small" with
        volumes := (∅ : Table Volume).insert "disk" sharedVolume } }

/-- No port can be deleted. -/
def refusingPorts : Schedule
  | _, .deletePorts _ => some (.api "out of order")
  | _, _ => none

/-- A deletion that fails at the ports has released the volume from its own server alone. -/
theorem deleteVm_touches_only_own_shared :
    let o := (deleteVm {} "vm-a").run.run refusingPorts.backend 0 (0, sharingCloud)
    OnlyOwn "vm-a" sharingCloud.resources o.state.2.resources ∧
      o.result.toOption = none ∧ o.state.2.resources.servers.keys = ["vm-b"] ∧
      o.state.2.resources.ports.keys = ["port-a"] ∧
      (o.state.2.resources.volumes.get? "disk").map (·.attachments) =
        some [⟨"disk", "vm-b", "/dev/sdb"⟩] := by
  refine ⟨?_, by decide +kernel, by decide +kernel, by decide +kernel, by decide +kernel⟩
  refine deleteVm_touches_only_own {} "vm-a" refusingPorts 0 0 sharingCloud ?_
  intro id v hv _
  have hshared : v = sharedVolume := Table.eq_of_get?_singleton hv rfl
  rw [hshared]
  exact List.cons_ne_nil _ _

end Lifecycle

end CloudProvider
