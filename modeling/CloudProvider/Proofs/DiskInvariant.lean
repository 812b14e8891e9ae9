import CloudProvider.Proofs.DiskMachine
import CloudProvider.Proofs.Letters
import CloudProvider.Proofs.Loosening
import CloudProvider.Proofs.Served

/-!
# The disks of a simulated cloud

A simulated cloud amounts to a machine of disks. Between two operations its resources
are *tidy*: apart from being consistent, they have a free letter for every disk that a
server has room for.

* `Resources.diskMachine`: the machine that some resources amount to;
* `Resources.map_attachmentsTo`: the attachments to a server are the disks it holds;
* `Tidy`: what the operations on disks keep;
* `Tidy.nextLetter?_eq_none_iff`: a server is out of letters when it holds a disk for
  every letter.
-/

namespace CloudProvider

open Lifecycle

/-! ## The machine behind some resources -/

namespace Volume

/-- The server that holds a volume: that of its first attachment. -/
def holder? (v : Volume) : Option String := v.attachments.head?.map (·.serverId)

/-- A volume as a disk. -/
def disk (v : Volume) : Disk := ⟨v.sizeGib, v.holder?⟩

/-- A volume that is free. -/
def freed (v : Volume) : Volume := { v with attachments := [], status := .available }

theorem isFree_freed (v : Volume) : v.freed.IsFree := ⟨rfl, rfl⟩

/-- A volume in use through one attachment. -/
def attached (v : Volume) (a : Attachment) : Volume :=
  { v with attachments := [a], status := .inUse }

end Volume

namespace Resources

/-- The machine that some resources amount to. -/
def diskMachine (s : Resources) : DiskMachine :=
  ⟨s.servers.map fun _ => (), s.volumes.map Volume.disk⟩

/-- Put a volume in place. -/
def putVolume (id : String) (v : Volume) (s : Resources) : Resources :=
  { s with volumes := s.volumes.insert id v }

variable {s s' : Resources}

theorem diskMachine_putVolume (id : String) (v : Volume) (s : Resources) :
    (s.putVolume id v).diskMachine = s.diskMachine.put id v.disk := by
  rw [diskMachine, putVolume, Table.map_insert]
  rfl

theorem get?_putVolume_self (id : String) (v : Volume) (s : Resources) :
    (s.putVolume id v).volumes.get? id = some v := Table.get?_insert_self _ _ _

/-- The attachment of a volume that has none. -/
theorem attachVolume_eq {vmId diskId : String} {server : Server} {v : Volume}
    (hserver : s.servers.get? vmId = some server) (hv : s.volumes.get? diskId = some v)
    (hfree : v.attachments = []) (device : String) :
    s.attachVolume vmId diskId device =
      .ok (⟨diskId, vmId, (s.reportedDevices.get? diskId).getD device⟩,
        s.putVolume diskId
          (v.attached ⟨diskId, vmId, (s.reportedDevices.get? diskId).getD device⟩)) := by
  rw [attachVolume, find_of_some hserver, find_of_some hv]
  simp only [bind, Except.bind, pure, Except.pure, hfree, List.nil_append]
  rfl

theorem contains_vms (s : Resources) (vmId : String) :
    s.diskMachine.vms.contains vmId = s.servers.contains vmId :=
  s.servers.contains_map _ vmId

theorem get?_disks (s : Resources) (diskId : String) :
    s.diskMachine.disks.get? diskId = (s.volumes.get? diskId).map Volume.disk :=
  s.volumes.get?_map _ diskId

/-! ## Attachments to a server -/

/-- The disks that a server holds are those attached to it. -/
theorem map_attachmentsTo (h : s.Consistent) (vmId : String) :
    (s.attachmentsTo vmId).map (·.volumeId) = s.diskMachine.held vmId := by
  have hentries : ∀ e ∈ s.volumes.entries, e.2.IsFree ∨ e.2.IsHeld s.servers e.1 :=
    fun e he => h e.1 e.2 (Table.mem_entries.1 he)
  simp only [attachmentsTo, Table.values, DiskMachine.held, diskMachine, Table.map]
  generalize s.volumes.entries = entries at hentries
  induction entries with
  | nil => rfl
  | cons e rest ih =>
    have hrest := ih fun e' he' => hentries e' (List.mem_cons_of_mem _ he')
    simp only [List.map_cons, List.flatMap_cons, List.map_append, hrest, List.filter_cons]
    rcases hentries e List.mem_cons_self with ⟨hattachments, -⟩ | ⟨a, hattachments, -, hid, -⟩
    · simp [Volume.disk, Volume.holder?, hattachments]
    · by_cases hvm : a.serverId = vmId <;>
        simp [Volume.disk, Volume.holder?, hattachments, hvm, hid]

end Resources

/-! ## Tidy resources -/

/-- What the operations on disks keep: resources are consistent, every server has a
    flavor with so many reserved letters and takes part in no pool, nothing is pinned,
    no id is in use that is to be given out to a volume, and no two volumes share a
    device of a server, all of which are under letters for data disks. -/
structure Tidy (settings : Settings) (reserved : String → Nat) (s : Resources) : Prop where
  consistent : s.Consistent
  flavored {id server} : s.servers.get? id = some server →
    ∃ flavor, s.flavors.find? (·.id = server.flavorId) = some flavor ∧
      Device.reservations flavor settings.configDrive = reserved id
  untagged {id server} : s.servers.get? id = some server →
    Membership.ofMetadata id server.metadata = .ok []
  unpinned : s.pinnedStatuses = ∅
  unreported : s.reportedDevices = ∅
  unissued {id} : s.Unissued "volume" id → s.volumes.get? id = none
  devices {id v a} : s.volumes.get? id = some v → a ∈ v.attachments →
    a.device ∈ Device.devicesFrom (reserved a.serverId)
  distinct {id id' v v' a a'} : s.volumes.get? id = some v → s.volumes.get? id' = some v' →
    a ∈ v.attachments → a' ∈ v'.attachments → a.serverId = a'.serverId → a.device = a'.device →
    id = id'

namespace Tidy

variable {settings : Settings} {reserved : String → Nat} {s s' : Resources}

theorem unpinned_get? (h : Tidy settings reserved s) (id : String) :
    s.pinnedStatuses.get? id = none := by
  rw [h.unpinned]
  rfl

/-- Resources stay tidy when nothing is attached and nothing comes but fresh volumes. -/
theorem of_attachesNothing (h : Tidy settings reserved s) (hnothing : s.AttachesNothing s')
    (hservers : ∀ id server, s'.servers.get? id = some server → s.servers.get? id = some server)
    (hflavors : s'.flavors = s.flavors) (hpinned : s'.pinnedStatuses = s.pinnedStatuses)
    (hreported : s'.reportedDevices = s.reportedDevices)
    (hunissued : ∀ id, s'.Unissued "volume" id → s'.volumes.get? id = none) :
    Tidy settings reserved s' := by
  -- Every attachment was there before, on the same volume.
  have hold {id : String} {v' : Volume} {a : Attachment} (hv' : s'.volumes.get? id = some v')
      (ha : a ∈ v'.attachments) : ∃ v, s.volumes.get? id = some v ∧ a ∈ v.attachments := by
    rcases hnothing id v' hv' with ⟨hattachments, -⟩ | ⟨-, v, hv, hattachments⟩
    · rw [hattachments] at ha
      cases ha
    · exact ⟨v, hv, hattachments ▸ ha⟩
  refine ⟨hnothing.consistent, fun hid => ?_, fun hid => h.untagged (hservers _ _ hid),
    hpinned.trans h.unpinned, hreported.trans h.unreported, hunissued _, fun hv' ha => ?_,
    fun hv hv' ha ha' hserver hdevice => ?_⟩
  · rw [hflavors]
    exact h.flavored (hservers _ _ hid)
  · obtain ⟨v, hv, ha⟩ := hold hv' ha
    exact h.devices hv ha
  · obtain ⟨v, hv, ha⟩ := hold hv ha
    obtain ⟨v', hv', ha'⟩ := hold hv' ha'
    exact h.distinct hv hv' ha ha' hserver hdevice

/-- The devices in use on a server are distinct. -/
theorem nodup_devices (h : Tidy settings reserved s) (vmId : String) :
    ((s.attachmentsTo vmId).map (·.device)).Nodup := by
  refine Resources.nodup_map_attachmentsTo (fun id => ?_) fun id id' a a' ha ha' hvm hvm' heq => ?_
  · cases hv : s.volumes.get? id with
    | none => simp [Resources.attachmentsOn, hv]
    | some v =>
      rw [Resources.attachmentsOn_of_some hv]
      rcases h.consistent id v hv with ⟨hattachments, -⟩ | ⟨a, hattachments, -⟩ <;>
        simp [hattachments]
  · obtain ⟨v, hv, ha⟩ := Resources.mem_attachmentsOn.1 ha
    obtain ⟨v', hv', ha'⟩ := Resources.mem_attachmentsOn.1 ha'
    exact h.distinct hv hv' ha ha' (hvm.trans hvm'.symm) heq

theorem devices_subset (h : Tidy settings reserved s) (vmId : String) :
    (s.attachmentsTo vmId).map (·.device) ⊆ Device.devicesFrom (reserved vmId) := by
  intro device hdevice
  obtain ⟨a, ha, rfl⟩ := List.mem_map.1 hdevice
  obtain ⟨id, v, hv, hmem, rfl⟩ := Resources.mem_attachmentsTo.1 ha
  exact h.devices hv hmem

/-- A server has no letter left once it holds as many disks as there are letters. -/
theorem nextLetter?_eq_none_iff (h : Tidy settings reserved s) {vmId : String} {flavor : Flavor}
    (hflavor : Device.reservations flavor settings.configDrive = reserved vmId) {used : List String}
    (hused : used.Perm ((s.attachmentsTo vmId).map (·.device))) :
    Device.nextLetter? flavor settings.configDrive used = none ↔
      25 - reserved vmId ≤ (s.diskMachine.held vmId).length := by
  have hnodup : used.Nodup := hused.nodup_iff.2 (h.nodup_devices vmId)
  have hsubset : used ⊆ Device.devicesFrom (Device.reservations flavor settings.configDrive) :=
    fun device hdevice => hflavor ▸ h.devices_subset vmId (hused.subset hdevice)
  have hlength : used.length = (s.diskMachine.held vmId).length := by
    rw [hused.length_eq, ← Resources.map_attachmentsTo h.consistent, List.length_map,
      List.length_map]
  rw [Device.nextLetter?_eq_none_iff hnodup hsubset, hflavor, hlength]

/-- No volume that exists has an id that is to be given out. -/
theorem get?_putVolume_of_unissued (h : Tidy settings reserved s) {id id' : String} {v : Volume}
    (hv : s.volumes.get? id = some v) (v' : Volume) (hid' : s.Unissued "volume" id') :
    (s.putVolume id v').volumes.get? id' = none := by
  have hne : id' ≠ id := by
    rintro rfl
    exact Option.some_ne_none v (hv.symm.trans (h.unissued hid'))
  exact (Table.get?_insert_of_ne _ _ hne).trans (h.unissued hid')

/-- A volume in place of another, free or with the same attachment. -/
theorem putVolume (h : Tidy settings reserved s) {id : String} {v v' : Volume}
    (hv : s.volumes.get? id = some v)
    (hv' : v'.IsFree ∨ v'.attachments = v.attachments ∧ v'.status = v.status) :
    Tidy settings reserved (s.putVolume id v') := by
  refine h.of_attachesNothing (Resources.attachesNothing_insert h.consistent ?_ rfl rfl)
    (fun _ _ hid => hid) rfl rfl rfl fun _ => h.get?_putVolume_of_unissued hv v'
  rcases hv' with hfree | ⟨hattachments, hstatus⟩
  · exact .inl hfree
  · simp only [Volume.IsFree, Volume.IsHeld, hattachments, hstatus]
    exact (h.consistent id v hv).imp_right fun hheld => ⟨hheld, v, hv, rfl⟩

/-! ### Attachment -/

/-- An attachment, where no other device is reported. -/
theorem attachVolume_eq (h : Tidy settings reserved s) {vmId diskId : String} {server : Server}
    {v : Volume} (hserver : s.servers.get? vmId = some server)
    (hv : s.volumes.get? diskId = some v) (hfree : v.attachments = []) (device : String) :
    s.attachVolume vmId diskId device = .ok (⟨diskId, vmId, device⟩,
      s.putVolume diskId (v.attached ⟨diskId, vmId, device⟩)) := by
  have hdevice : (s.reportedDevices.get? diskId).getD device = device := by
    rw [h.unreported]
    rfl
  rw [Resources.attachVolume_eq hserver hv hfree, hdevice]

/-- A free volume may be attached under a free letter. -/
theorem attachVolume (h : Tidy settings reserved s) {vmId diskId : String} {server : Server}
    {v : Volume} (hserver : s.servers.get? vmId = some server)
    (hv : s.volumes.get? diskId = some v) (hfree : v.attachments = []) {device : String}
    (hdevice : device ∈ Device.devicesFrom (reserved vmId))
    (hunused : ∀ a ∈ s.attachmentsTo vmId, a.device ≠ device) :
    Tidy settings reserved (s.putVolume diskId (v.attached ⟨diskId, vmId, device⟩)) := by
  -- An attachment is the new one, or one that was there before.
  have hold {id : String} {v' : Volume} {a' : Attachment}
      (hv' : (s.putVolume diskId (v.attached ⟨diskId, vmId, device⟩)).volumes.get? id = some v')
      (ha' : a' ∈ v'.attachments) :
      (id = diskId ∧ a' = ⟨diskId, vmId, device⟩) ∨
        ∃ v, s.volumes.get? id = some v ∧ a' ∈ v.attachments := by
    rw [Resources.putVolume, Table.get?_insert] at hv'
    split at hv'
    · rename_i hid
      obtain rfl := Option.some.inj hv'
      exact .inl ⟨hid, List.mem_singleton.1 ha'⟩
    · exact .inr ⟨v', hv', ha'⟩
  have hother {id : String} {v' : Volume} {a' : Attachment} (hv' : s.volumes.get? id = some v')
      (ha' : a' ∈ v'.attachments) (hvm : a'.serverId = vmId) : a'.device ≠ device :=
    hunused a' (Resources.mem_attachmentsTo.2 ⟨id, v', hv', ha', hvm⟩)
  have hunattached : ∀ v, s.volumes.get? diskId = some v → v.attachments = [] := by
    intro v' hv'
    rwa [← Option.some.inj (hv.symm.trans hv')]
  refine ⟨Resources.attachVolume_consistent h.consistent hunattached
    (h.attachVolume_eq hserver hv hfree device), h.flavored, h.untagged, h.unpinned, h.unreported,
    h.get?_putVolume_of_unissued hv _, fun hv' ha' => ?_,
    fun hv₁ hv₂ ha₁ ha₂ hvm hdevices => ?_⟩
  · rcases hold hv' ha' with ⟨-, rfl⟩ | ⟨v', hv', ha'⟩
    · exact hdevice
    · exact h.devices hv' ha'
  · rcases hold hv₁ ha₁ with ⟨hid₁, rfl⟩ | ⟨v₁, hv₁, ha₁⟩
    · rcases hold hv₂ ha₂ with ⟨hid₂, rfl⟩ | ⟨v₂, hv₂, ha₂⟩
      · exact hid₁.trans hid₂.symm
      · exact absurd hdevices.symm (hother hv₂ ha₂ hvm.symm)
    · rcases hold hv₂ ha₂ with ⟨hid₂, rfl⟩ | ⟨v₂, hv₂, ha₂⟩
      · exact absurd hdevices (hother hv₁ ha₁ hvm)
      · exact h.distinct hv₁ hv₂ ha₁ ha₂ hvm hdevices

end Tidy

end CloudProvider
