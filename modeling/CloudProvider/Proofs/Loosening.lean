import CloudProvider.Proofs.Attachment
import Mathlib.Data.List.Nodup

/-!
# Attachments that only go away

Most calls leave every attachment where it is, or take some away, and so do other
clients. Nor does a server ever change its flavor: it is created with it, and when it is
deleted nothing is attached to it any more. Unlike consistency this holds of any
resources, whatever status their volumes are in.

* `Resources.attachmentsOn`, `Resources.flavorIdOf?`: what is seen of volumes and servers;
* `Resources.Loosens`: what becomes of them;
* `answer_loosens`: every call that does not attach a volume does just that.
-/

namespace CloudProvider.Resources

variable {s s' : Resources} {id vmId : String}

/-! ## Volumes and servers -/

/-- The attachments of a volume, none if it does not exist. -/
def attachmentsOn (id : String) (s : Resources) : List Attachment :=
  ((s.volumes.get? id).map (·.attachments)).getD []

theorem attachmentsOn_of_some {v : Volume} (h : s.volumes.get? id = some v) :
    s.attachmentsOn id = v.attachments := by
  rw [attachmentsOn, h]
  rfl

theorem mem_attachmentsOn {a : Attachment} :
    a ∈ s.attachmentsOn id ↔ ∃ v, s.volumes.get? id = some v ∧ a ∈ v.attachments := by
  rw [attachmentsOn]
  cases s.volumes.get? id <;> simp

theorem mem_attachmentsTo_iff {a : Attachment} :
    a ∈ s.attachmentsTo vmId ↔ (∃ id, a ∈ s.attachmentsOn id) ∧ a.serverId = vmId := by
  simp only [mem_attachmentsTo, mem_attachmentsOn]
  grind

/-- Values of attachments are distinct if no volume has two attachments and no two volumes
    share a value. -/
theorem nodup_map_attachmentsTo {β : Type} {f : Attachment → β}
    (hsingle : ∀ id, (s.attachmentsOn id).length ≤ 1)
    (hdistinct : ∀ id id' a a', a ∈ s.attachmentsOn id → a' ∈ s.attachmentsOn id' →
      a.serverId = vmId → a'.serverId = vmId → f a = f a' → id = id') :
    ((s.attachmentsTo vmId).map f).Nodup := by
  have hon {e : String × Volume} (he : e ∈ s.volumes.entries) :
      s.attachmentsOn e.1 = e.2.attachments := attachmentsOn_of_some (Table.mem_entries.1 he)
  rw [attachmentsTo, Table.values, List.flatMap_map, List.map_flatMap, List.nodup_flatMap]
  refine ⟨fun e he => ?_, s.volumes.sorted.imp_of_mem fun {e e'} he he' hlt => ?_⟩
  · have hlength : ((e.2.attachments.filter (·.serverId = vmId)).map f).length ≤ 1 := by
      rw [List.length_map, ← hon he]
      exact Nat.le_trans (List.length_filter_le _ _) (hsingle e.1)
    generalize (e.2.attachments.filter (·.serverId = vmId)).map f = l at hlength
    rcases l with _ | ⟨b, _ | ⟨b', l⟩⟩
    · exact List.nodup_nil
    · exact List.nodup_singleton b
    · simp at hlength
  · -- A value in two places would make one volume of two.
    intro b hb hb'
    obtain ⟨a, ha, rfl⟩ := List.mem_map.1 hb
    obtain ⟨a', ha', heq⟩ := List.mem_map.1 hb'
    obtain ⟨ha, hvm⟩ := List.mem_filter.1 ha
    obtain ⟨ha', hvm'⟩ := List.mem_filter.1 ha'
    have hid := hdistinct e.1 e'.1 a a' ((hon he).symm ▸ ha) ((hon he').symm ▸ ha')
      (of_decide_eq_true hvm) (of_decide_eq_true hvm') heq.symm
    exact String.lt_irrefl _ (hid ▸ hlt)

theorem attachmentsOn_congr (h : s'.volumes.get? id = s.volumes.get? id) :
    s'.attachmentsOn id = s.attachmentsOn id := by
  rw [attachmentsOn, attachmentsOn, h]

theorem attachmentsOn_insert {v : Volume} (h : s'.volumes = s.volumes.insert id v)
    (key : String) :
    s'.attachmentsOn key = if key = id then v.attachments else s.attachmentsOn key := by
  rw [attachmentsOn, attachmentsOn, h, Table.get?_insert]
  split <;> rfl

/-- The id of the flavor of a server, if the server exists. -/
def flavorIdOf? (id : String) (s : Resources) : Option String :=
  (s.servers.get? id).map (·.flavorId)

theorem flavorIdOf?_eq_none_iff : s.flavorIdOf? id = none ↔ s.servers.get? id = none :=
  Option.map_eq_none_iff

theorem flavorIdOf?_congr (h : s'.servers.get? id = s.servers.get? id) :
    s'.flavorIdOf? id = s.flavorIdOf? id := by
  rw [flavorIdOf?, flavorIdOf?, h]

/-! ## Loosening -/

/-- What may become of volumes and servers: attachments go away, and a server keeps its
    flavor, or is gone and holds nothing, or is new. -/
structure Loosens (s s' : Resources) : Prop where
  flavors : s'.flavors = s.flavors
  issued : s.issued ≤ s'.issued
  attachments id : (s'.attachmentsOn id).Sublist (s.attachmentsOn id)
  servers id : s'.flavorIdOf? id = s.flavorIdOf? id ∨
    (s'.flavorIdOf? id = none ∧ s'.attachmentsTo id = []) ∨
    (s.flavorIdOf? id = none ∧ ¬ s'.Unissued "server" id)

namespace Loosens

theorem of_volumes_eq (hflavors : s'.flavors = s.flavors) (hissued : s.issued ≤ s'.issued)
    (hvolumes : s'.volumes = s.volumes) (hservers : s'.servers = s.servers) : s.Loosens s' where
  flavors := hflavors
  issued := hissued
  attachments id := by
    rw [attachmentsOn_congr (congrArg (·.get? id) hvolumes)]
  servers id := .inl (flavorIdOf?_congr (by rw [hservers]))

theorem refl (s : Resources) : s.Loosens s := of_volumes_eq rfl (Nat.le_refl _) rfl rfl

theorem attachmentsTo (h : s.Loosens s') {a : Attachment} (ha : a ∈ s'.attachmentsTo vmId) :
    a ∈ s.attachmentsTo vmId := by
  obtain ⟨⟨id, ha⟩, hvm⟩ := mem_attachmentsTo_iff.1 ha
  exact mem_attachmentsTo_iff.2 ⟨⟨id, (h.attachments id).subset ha⟩, hvm⟩

/-- One volume is created or changed. -/
theorem of_insert {v : Volume} (hflavors : s'.flavors = s.flavors)
    (hissued : s.issued ≤ s'.issued) (hvolumes : s'.volumes = s.volumes.insert id v)
    (hv : v.attachments.Sublist (s.attachmentsOn id)) (hservers : s'.servers = s.servers) :
    s.Loosens s' where
  flavors := hflavors
  issued := hissued
  attachments key := by
    rw [attachmentsOn_insert hvolumes]
    split
    · rename_i hkey
      rwa [hkey]
    · exact List.Sublist.refl _
  servers key := .inl (flavorIdOf?_congr (by rw [hservers]))

end Loosens

/-! ### Servers -/

theorem createServer_loosens {r : ServerRequest} {server : Server}
    (hfresh : s.servers.get? (s.nextId "server") = none)
    (h : s.createServer r = .ok (server, s')) : s.Loosens s' := by
  cases h
  refine ⟨rfl, Nat.le_succ _, fun _ => List.Sublist.refl _, fun id => ?_⟩
  by_cases hid : id = s.nextId "server"
  · subst hid
    exact .inr (.inr ⟨flavorIdOf?_eq_none_iff.2 hfresh, not_unissued_nextId (Nat.lt_succ_self _)⟩)
  · exact .inl (flavorIdOf?_congr (Table.get?_insert_of_ne _ _ hid))

theorem updateServer_loosens {change : Server → Server} {a : Unit}
    (h : s.updateServer id change = .ok (a, s'))
    (hflavor : ∀ server, (change server).flavorId = server.flavorId) : s.Loosens s' := by
  obtain ⟨server, hserver, h⟩ := find_bind_ok h
  cases h
  refine ⟨rfl, Nat.le_refl _, fun _ => List.Sublist.refl _, fun key => .inl ?_⟩
  rw [flavorIdOf?, flavorIdOf?, Table.get?_insert]
  by_cases hkey : key = id
  · rw [if_pos hkey, hkey, hserver]
    exact congrArg some (hflavor server)
  · rw [if_neg hkey]

/-- What is left on a volume is what was attached to other servers. -/
theorem attachmentsOn_releaseFrom (h : s'.volumes = s.volumes.map (releaseFrom id))
    (key : String) : s'.attachmentsOn key = (s.attachmentsOn key).filter (·.serverId ≠ id) := by
  rw [attachmentsOn, attachmentsOn, h, Table.get?_map]
  cases s.volumes.get? key <;> rfl

theorem attachmentsTo_releaseFrom (h : s'.volumes = s.volumes.map (releaseFrom id)) :
    s'.attachmentsTo id = [] := by
  refine List.eq_nil_iff_forall_not_mem.2 fun a ha => ?_
  obtain ⟨⟨volumeId, ha⟩, hid⟩ := mem_attachmentsTo_iff.1 ha
  rw [attachmentsOn_releaseFrom h] at ha
  exact of_decide_eq_true (List.mem_filter.1 ha).2 hid

theorem deleteServer_loosens {a : Unit} (h : s.deleteServer id = .ok (a, s')) : s.Loosens s' := by
  obtain ⟨server, -, h⟩ := find_bind_ok h
  cases h
  refine ⟨rfl, Nat.le_refl _, fun key => ?_, fun key => ?_⟩
  · rw [attachmentsOn_releaseFrom (s := s) rfl]
    exact List.filter_sublist
  · by_cases hkey : key = id
    · subst hkey
      refine .inr (.inl ⟨?_, attachmentsTo_releaseFrom (s := s) rfl⟩)
      rw [flavorIdOf?, Table.get?_erase_self]
      rfl
    · exact .inl (flavorIdOf?_congr (Table.get?_erase_of_ne _ hkey))

/-! ### Volumes -/

theorem detachVolume_loosens {serverId : String} {a : Unit}
    (h : s.detachVolume serverId id = .ok (a, s')) : s.Loosens s' := by
  obtain ⟨v, hv, h⟩ := find_bind_ok h
  cases h
  refine .of_insert rfl (Nat.le_refl _) rfl ?_ rfl
  rw [attachmentsOn_of_some hv]
  exact List.filter_sublist

theorem createVolume_loosens {r : VolumeRequest} {v : Volume}
    (h : s.createVolume r = .ok (v, s')) : s.Loosens s' := by
  cases h
  exact .of_insert rfl (Nat.le_succ _) rfl (List.nil_sublist _) rfl

theorem updateVolume_loosens {change : Volume → Volume} {a : Unit}
    (h : s.updateVolume id change = .ok (a, s'))
    (hattachments : ∀ v, (change v).attachments = v.attachments) : s.Loosens s' := by
  obtain ⟨v, hv, h⟩ := find_bind_ok h
  cases h
  refine .of_insert rfl (Nat.le_refl _) rfl ?_ rfl
  rw [attachmentsOn_of_some hv, hattachments]

theorem deleteVolume_loosens {a : Unit} (h : s.deleteVolume id = .ok (a, s')) : s.Loosens s' := by
  obtain ⟨v, -, h⟩ := find_bind_ok h
  cases h
  refine ⟨rfl, Nat.le_refl _, fun key => ?_, fun _ => .inl rfl⟩
  by_cases hkey : key = id
  · rw [attachmentsOn, hkey, Table.get?_erase_self]
    exact List.nil_sublist _
  · rw [attachmentsOn, attachmentsOn, Table.get?_erase_of_ne _ hkey]

/-- A call that does not attach a volume only takes attachments away. If it creates a
    server, no server must have had its id. -/
theorem answer_loosens {c : Call} (hc : ¬ c.Attaches)
    (hfresh : ∀ r, c = .createServer r → s.servers.get? (s.nextId "server") = none)
    {a : c.Answer} (h : Resources.answer c s = .ok (a, s')) : s.Loosens s' := by
  cases hidle : c.isIdle with
  | true =>
    rw [eq_of_isIdle hidle h]
    exact .refl s
  | false =>
    cases c with
    | attachVolume serverId volumeId device => exact absurd trivial hc
    | createServer r => exact createServer_loosens (hfresh r rfl) h
    | deleteServer id => exact deleteServer_loosens h
    | detachVolume serverId volumeId => exact detachVolume_loosens h
    | updateMetadata id m | deleteMetadata id keys | renameServer id name =>
      exact updateServer_loosens h fun _ => rfl
    | createVolume r => exact createVolume_loosens h
    | deleteVolume id => exact deleteVolume_loosens h
    | extendVolume id size | setVolumeMetadata id m => exact updateVolume_loosens h fun _ => rfl
    | deletePorts _ | deleteMember _ _ _ =>
      cases h
      exact .of_volumes_eq rfl (Nat.le_refl _) rfl rfl
    | createPort _ _ | createMember _ _ _ _ _ =>
      cases h
      exact .of_volumes_eq rfl (Nat.le_succ _) rfl rfl
    | deleteSnapshot id =>
      obtain ⟨-, -, h⟩ := find_bind_ok h
      cases h
      exact .of_volumes_eq rfl (Nat.le_refl _) rfl rfl
    | createSnapshot r =>
      obtain ⟨-, -, h⟩ := find_bind_ok h
      cases h
      exact .of_volumes_eq rfl (Nat.le_succ _) rfl rfl
    | _ => cases hidle

end CloudProvider.Resources
