import CloudProvider.Simulated.Resources

/-!
# Volumes and their servers

Resources are *consistent* if every volume is free and available, or in use by one
server that exists. What keeps them so is said once for all calls: a call that does
not attach a volume leaves every volume free or held as it was.

* `eq_of_isIdle`: most calls change nothing at all;
* `answer_attachesNothing`: what a call leaves that does not attach a volume;
* `attachVolume_consistent`: a volume that is free may be attached.
-/

namespace CloudProvider

namespace Volume

/-- Attached to nothing, and available. -/
def IsFree (v : Volume) : Prop := v.attachments = [] ∧ v.status = .available

/-- Stored under an id, attached to one of some servers, and in use. -/
def IsHeld (servers : Table Server) (id : String) (v : Volume) : Prop :=
  ∃ a, v.attachments = [a] ∧ v.status = .inUse ∧ a.volumeId = id ∧
    servers.contains a.serverId = true

theorem IsHeld.mono {servers servers' : Table Server} {id : String} {v : Volume}
    (h : v.IsHeld servers id)
    (hservers : ∀ id, servers.contains id = true → servers'.contains id = true) :
    v.IsHeld servers' id := by
  obtain ⟨a, hattachments, hstatus, hid, hserver⟩ := h
  exact ⟨a, hattachments, hstatus, hid, hservers _ hserver⟩

end Volume

/-- Whether a call attaches a volume. -/
def Call.Attaches : Call → Prop
  | .attachVolume _ _ _ => True
  | _ => False

/-- Whether a call changes nothing: it reads, or it does what a simulated cloud keeps no
    record of. -/
def Call.isIdle : Call → Bool
  | .openService _ | .getServer _ | .listAttachments _ | .getFlavor _ | .matchFlavor _ _
  | .getMetadata _ | .rebootServer _ | .getServerZone _ | .resolveNetworks _ _ | .getPorts _
  | .configureVip _ _ | .getSubnet _ | .getImage _ | .getVolume _ | .getSnapshot _
  | .getPool _ => true
  | _ => false

namespace Resources

theorem eq_of_isIdle {s s' : Resources} {c : Call} (hc : c.isIdle = true) {a : c.Answer}
    (h : Resources.answer c s = .ok (a, s')) : s' = s := by
  cases c with
  | openService _ | getPorts _ | getSubnet _ =>
    cases h
    rfl
  | listAttachments id =>
    obtain ⟨-, -, h⟩ := find_bind_ok h
    cases h
    rfl
  | getServer _ | getFlavor _ | matchFlavor _ _ | getMetadata _ | rebootServer _ | getServerZone _
  | resolveNetworks _ _ | configureVip _ _ | getImage _ | getVolume _ | getSnapshot _
  | getPool _ => exact (unchanged_ok h).2
  | _ => cases hc

/-- Every volume is free or held by one server. -/
def Consistent (s : Resources) : Prop :=
  ∀ id v, s.volumes.get? id = some v → v.IsFree ∨ v.IsHeld s.servers id

/-- Every volume is free or held as it was before. -/
def AttachesNothing (s s' : Resources) : Prop :=
  ∀ id v', s'.volumes.get? id = some v' →
    v'.IsFree ∨ v'.IsHeld s'.servers id ∧
      ∃ v, s.volumes.get? id = some v ∧ v.attachments = v'.attachments

variable {s s' : Resources}

theorem mem_attachmentsTo {vmId : String} {a : Attachment} :
    a ∈ s.attachmentsTo vmId ↔
      ∃ id v, s.volumes.get? id = some v ∧ a ∈ v.attachments ∧ a.serverId = vmId := by
  simp only [attachmentsTo, Table.values, List.mem_flatMap, List.mem_map, List.mem_filter,
    decide_eq_true_eq]
  constructor
  · rintro ⟨v, ⟨⟨id, v'⟩, hentry, rfl⟩, ha⟩
    exact ⟨id, v', Table.mem_entries.1 hentry, ha⟩
  · rintro ⟨id, v, hv, ha⟩
    exact ⟨v, ⟨(id, v), Table.mem_entries.2 hv, rfl⟩, ha⟩

theorem AttachesNothing.consistent (h : s.AttachesNothing s') : s'.Consistent :=
  fun id v hv => (h id v hv).imp_right (·.1)

/-! ## Calls that attach nothing -/

theorem attachesNothing_of_volumes (h : s.Consistent) (hvolumes : s'.volumes = s.volumes)
    (hservers : ∀ id, s.servers.contains id = true → s'.servers.contains id = true) :
    s.AttachesNothing s' := by
  intro id v hv
  rw [hvolumes] at hv
  rcases h id v hv with hfree | hheld
  · exact .inl hfree
  · exact .inr ⟨hheld.mono hservers, v, hv, rfl⟩

theorem Consistent.attachesNothing (h : s.Consistent) : s.AttachesNothing s :=
  attachesNothing_of_volumes h rfl fun _ => id

/-- One volume is created or changed. -/
theorem attachesNothing_insert (h : s.Consistent) {id : String} {v' : Volume}
    (hv' : v'.IsFree ∨ v'.IsHeld s.servers id ∧
      ∃ v, s.volumes.get? id = some v ∧ v.attachments = v'.attachments)
    (hvolumes : s'.volumes = s.volumes.insert id v') (hservers : s'.servers = s.servers) :
    s.AttachesNothing s' := by
  intro key v hv
  rw [hvolumes, Table.get?_insert] at hv
  rw [hservers]
  split at hv
  · rename_i hkey
    obtain rfl := Option.some.inj hv
    exact hkey ▸ hv'
  · exact h.attachesNothing key v hv

theorem createServer_attachesNothing (h : s.Consistent) {r : ServerRequest} {server : Server}
    (hs : s.createServer r = .ok (server, s')) : s.AttachesNothing s' := by
  cases hs
  refine attachesNothing_of_volumes h rfl fun id hid => ?_
  rw [Table.contains_insert, hid, Bool.or_true]

theorem updateServer_attachesNothing (h : s.Consistent) {id : String} {change : Server → Server}
    {a : Unit} (hs : s.updateServer id change = .ok (a, s')) : s.AttachesNothing s' := by
  obtain ⟨server, -, hs⟩ := find_bind_ok hs
  cases hs
  refine attachesNothing_of_volumes h rfl fun id' hid' => ?_
  rw [Table.contains_insert, hid', Bool.or_true]

theorem deleteServer_attachesNothing (h : s.Consistent) {serverId : String} {a : Unit}
    (hs : s.deleteServer serverId = .ok (a, s')) : s.AttachesNothing s' := by
  obtain ⟨server, -, hs⟩ := find_bind_ok hs
  cases hs
  intro id v' hv'
  rw [Table.get?_map] at hv'
  obtain ⟨v, hv, rfl⟩ := Option.map_eq_some_iff.1 hv'
  rcases h id v hv with ⟨hattachments, hstatus⟩ | ⟨a, hattachments, hstatus, hid, hserver⟩
  · exact .inl (by simp [Volume.IsFree, releaseFrom, hattachments, hstatus])
  · -- The volume is set free if it is held by the server, and else left alone.
    by_cases hne : a.serverId = serverId
    · exact .inl (by simp [Volume.IsFree, releaseFrom, hattachments, hstatus, hne])
    · rw [releaseFrom_eq_self (by simpa [hattachments] using hne) (by simp [hattachments])]
      refine .inr ⟨⟨a, hattachments, hstatus, hid, ?_⟩, v, hv, rfl⟩
      rwa [Table.contains, Table.get?_erase_of_ne _ hne]

theorem detachVolume_attachesNothing (h : s.Consistent) {serverId volumeId : String} {a : Unit}
    (hs : s.detachVolume serverId volumeId = .ok (a, s')) : s.AttachesNothing s' := by
  obtain ⟨v, hv, hs⟩ := find_bind_ok hs
  cases hs
  refine attachesNothing_insert h ?_ rfl rfl
  rcases h volumeId v hv with ⟨hattachments, hstatus⟩ | ⟨a, hattachments, hstatus, hid, hserver⟩
  · exact .inl (by simp [Volume.IsFree, hattachments])
  · by_cases hne : a.serverId = serverId
    · exact .inl (by simp [Volume.IsFree, hattachments, hne])
    · have hkept : v.attachments.filter (·.serverId ≠ serverId) = [a] := by
        simp [hattachments, hne]
      rw [hkept]
      exact .inr ⟨⟨a, rfl, hstatus, hid, hserver⟩, v, hv, hattachments⟩

theorem createVolume_attachesNothing (h : s.Consistent) {r : VolumeRequest} {v : Volume}
    (hs : s.createVolume r = .ok (v, s')) : s.AttachesNothing s' := by
  cases hs
  exact attachesNothing_insert h (.inl ⟨rfl, rfl⟩) rfl rfl

theorem deleteVolume_attachesNothing (h : s.Consistent) {id : String} {a : Unit}
    (hs : s.deleteVolume id = .ok (a, s')) : s.AttachesNothing s' := by
  obtain ⟨v, -, hs⟩ := find_bind_ok hs
  cases hs
  intro key v' hv'
  rw [Table.get?_erase] at hv'
  split at hv'
  · cases hv'
  · exact h.attachesNothing key v' hv'

theorem updateVolume_attachesNothing (h : s.Consistent) {id : String} {change : Volume → Volume}
    {a : Unit} (hs : s.updateVolume id change = .ok (a, s'))
    (hattachments : ∀ v, (change v).attachments = v.attachments)
    (hstatus : ∀ v, (change v).status = v.status) : s.AttachesNothing s' := by
  obtain ⟨v, hv, hs⟩ := find_bind_ok hs
  cases hs
  refine attachesNothing_insert h ?_ rfl rfl
  simp only [Volume.IsFree, Volume.IsHeld, hattachments, hstatus]
  exact (h id v hv).imp_right fun hheld => ⟨hheld, v, hv, rfl⟩

/-- A call that does not attach a volume leaves every volume free or held as it was. -/
theorem answer_attachesNothing (h : s.Consistent) {c : Call} (hc : ¬ c.Attaches)
    {a : c.Answer} (hs : Resources.answer c s = .ok (a, s')) : s.AttachesNothing s' := by
  have hsame (hvolumes : s'.volumes = s.volumes) (hservers : s'.servers = s.servers) :
      s.AttachesNothing s' :=
    attachesNothing_of_volumes h hvolumes fun id hid => by rwa [hservers]
  cases hidle : c.isIdle with
  | true =>
    rw [eq_of_isIdle hidle hs]
    exact h.attachesNothing
  | false =>
    cases c with
    | attachVolume serverId volumeId device => exact absurd trivial hc
    | createServer r => exact createServer_attachesNothing h hs
    | deleteServer id => exact deleteServer_attachesNothing h hs
    | detachVolume serverId volumeId => exact detachVolume_attachesNothing h hs
    | updateMetadata id m | deleteMetadata id keys | renameServer id name =>
      exact updateServer_attachesNothing h hs
    | createVolume r => exact createVolume_attachesNothing h hs
    | deleteVolume id => exact deleteVolume_attachesNothing h hs
    | extendVolume id size | setVolumeMetadata id m =>
      exact updateVolume_attachesNothing h hs (fun _ => rfl) fun _ => rfl
    | createPort _ _ | deletePorts _ | createMember _ _ _ _ _ | deleteMember _ _ _ =>
      cases hs
      exact hsame rfl rfl
    | createSnapshot r | deleteSnapshot id =>
      obtain ⟨-, -, hs⟩ := find_bind_ok hs
      cases hs
      exact hsame rfl rfl
    | _ => cases hidle

/-! ## Attachment -/

/-- A volume that is free may be attached. -/
theorem attachVolume_consistent (h : s.Consistent) {serverId volumeId device : String}
    {a : Attachment} (hfree : ∀ v, s.volumes.get? volumeId = some v → v.attachments = [])
    (hs : s.attachVolume serverId volumeId device = .ok (a, s')) : s'.Consistent := by
  obtain ⟨server, hserver, hs⟩ := find_bind_ok hs
  obtain ⟨v, hv, hs⟩ := find_bind_ok hs
  cases hs
  intro key v' hv'
  rw [Table.get?_insert] at hv'
  split at hv'
  · rename_i hkey
    obtain rfl := Option.some.inj hv'
    let device := (s.reportedDevices.get? volumeId).getD device
    refine .inr ⟨⟨volumeId, serverId, device⟩, ?_, rfl, hkey.symm, ?_⟩
    · rw [hfree v hv]
      rfl
    · exact Table.contains_of_some hserver
  · exact h key v' hv'

end Resources

end CloudProvider
