import CloudProvider.Proofs.FreeLetters

/-!
# Sizes

Only two kinds of calls give a volume a size: one that creates it, under an id that has not
been given out before, and one that extends it. Other clients do neither, so what they leave
of a volume has the size that it had.

* `Resources.sizeOf?`: the size of a volume;
* `Resources.answer_resizes`: what a call does to the sizes of volumes;
* `Resources.Erodes`: what other clients do to volumes (`Interference.erodes`).
-/

namespace CloudProvider

namespace Resources

variable {s s' s'' : Resources} {c : Call} {id : String} {deleted : String → Prop}

/-- The size of a volume, if it exists. -/
def sizeOf? (id : String) (s : Resources) : Option UInt32 := (s.volumes.get? id).map (·.sizeGib)

theorem sizeOf?_of_some {v : Volume} (h : s.volumes.get? id = some v) :
    s.sizeOf? id = some v.sizeGib := by
  rw [sizeOf?, h]
  rfl

theorem sizeOf?_congr (h : s'.volumes.get? id = s.volumes.get? id) :
    s'.sizeOf? id = s.sizeOf? id := by
  rw [sizeOf?, sizeOf?, h]

theorem sizeOf?_insert {v : Volume} (h : s'.volumes = s.volumes.insert id v) (key : String) :
    s'.sizeOf? key = if key = id then some v.sizeGib else s.sizeOf? key := by
  rw [sizeOf?, sizeOf?, h, Table.get?_insert]
  split <;> rfl

/-! ## What calls do -/

/-- What a call may do to the size of a volume. -/
inductive SizeChange (c : Call) (id : String) (s s' : Resources) : Prop
  | kept : s'.sizeOf? id = s.sizeOf? id → SizeChange c id s s'
  | created (r : VolumeRequest) : c = .createVolume r → s.Unissued "volume" id →
    ¬ s'.Unissued "volume" id → SizeChange c id s s'
  | extended (old size : UInt32) : c = .extendVolume id size → s.sizeOf? id = some old →
    s'.sizeOf? id = some size → SizeChange c id s s'
  | deleted : c = .deleteVolume id → s'.sizeOf? id = none → SizeChange c id s s'

/-- What a call may do to the sizes of volumes. -/
structure Resizes (c : Call) (s s' : Resources) : Prop where
  issued : s.issued ≤ s'.issued
  sizes id : SizeChange c id s s'

namespace Resizes

theorem of_volumes_eq (hissued : s.issued ≤ s'.issued) (hvolumes : s'.volumes = s.volumes) :
    Resizes c s s' where
  issued := hissued
  sizes id := .kept (sizeOf?_congr (congrArg (·.get? id) hvolumes))

/-- A volume is changed, but not in its size. -/
theorem of_insert {v v' : Volume} (hissued : s.issued = s'.issued)
    (hv : s.volumes.get? id = some v) (hvolumes : s'.volumes = s.volumes.insert id v')
    (hsize : v'.sizeGib = v.sizeGib) : Resizes c s s' where
  issued := Nat.le_of_eq hissued
  sizes key := by
    refine .kept ?_
    rw [sizeOf?_insert hvolumes]
    split
    · rename_i hkey
      rw [hkey, sizeOf?_of_some hv, hsize]
    · rfl

end Resizes

theorem createVolume_resizes {r : VolumeRequest} {v : Volume}
    (h : s.createVolume r = .ok (v, s')) : Resizes (.createVolume r) s s' := by
  cases h
  refine ⟨Nat.le_succ _, fun key => ?_⟩
  by_cases hkey : key = s.nextId "volume"
  · subst hkey
    exact .created r rfl (s.unissued_nextId _) (not_unissued_nextId (Nat.lt_succ_self _))
  · exact .kept (sizeOf?_congr (Table.get?_insert_of_ne _ _ hkey))

theorem deleteVolume_resizes {a : Unit} (h : s.deleteVolume id = .ok (a, s')) :
    Resizes (.deleteVolume id) s s' := by
  obtain ⟨v, -, h⟩ := find_bind_ok h
  cases h
  refine ⟨Nat.le_refl _, fun key => ?_⟩
  by_cases hkey : key = id
  · subst hkey
    refine .deleted rfl ?_
    rw [sizeOf?, Table.get?_erase_self]
    rfl
  · exact .kept (sizeOf?_congr (Table.get?_erase_of_ne _ hkey))

theorem extendVolume_ok {size : UInt32} {a : Unit}
    (h : Resources.answer (.extendVolume id size) s = .ok (a, s')) :
    ∃ v, s.volumes.get? id = some v ∧
      s' = { s with volumes := s.volumes.insert id { v with sizeGib := size } } := by
  obtain ⟨v, hv, h⟩ := find_bind_ok h
  cases h
  exact ⟨v, hv, rfl⟩

theorem extendVolume_resizes {size : UInt32} {a : Unit}
    (h : Resources.answer (.extendVolume id size) s = .ok (a, s')) :
    Resizes (.extendVolume id size) s s' := by
  obtain ⟨v, hv, rfl⟩ := extendVolume_ok h
  refine ⟨Nat.le_refl _, fun key => ?_⟩
  by_cases hkey : key = id
  · subst hkey
    refine .extended _ size rfl (sizeOf?_of_some hv) ?_
    rw [sizeOf?_insert rfl, if_pos rfl]
  · exact .kept (sizeOf?_congr (Table.get?_insert_of_ne _ _ hkey))

theorem updateServer_resizes {change : Server → Server} {a : Unit}
    (h : s.updateServer id change = .ok (a, s')) : Resizes c s s' := by
  obtain ⟨server, -, h⟩ := find_bind_ok h
  cases h
  exact .of_volumes_eq (Nat.le_refl _) rfl

theorem deleteServer_resizes {a : Unit} (h : s.deleteServer id = .ok (a, s')) :
    Resizes c s s' := by
  obtain ⟨server, -, h⟩ := find_bind_ok h
  cases h
  refine ⟨Nat.le_refl _, fun key => .kept ?_⟩
  rw [sizeOf?, sizeOf?, Table.get?_map]
  cases s.volumes.get? key <;> rfl

/-- What a call does that succeeds. -/
theorem answer_resizes {a : c.Answer} (h : Resources.answer c s = .ok (a, s')) :
    Resizes c s s' := by
  cases hidle : c.isIdle with
  | true =>
    rw [eq_of_isIdle hidle h]
    exact .of_volumes_eq (Nat.le_refl _) rfl
  | false =>
    cases c with
    | createVolume r => exact createVolume_resizes h
    | deleteVolume id => exact deleteVolume_resizes h
    | extendVolume id size => exact extendVolume_resizes h
    | deleteServer id => exact deleteServer_resizes h
    | attachVolume serverId volumeId device =>
      obtain ⟨server, -, h⟩ := find_bind_ok h
      obtain ⟨v, hv, h⟩ := find_bind_ok h
      cases h
      exact .of_insert rfl hv rfl rfl
    | detachVolume serverId volumeId =>
      obtain ⟨v, hv, h⟩ := find_bind_ok h
      cases h
      exact .of_insert rfl hv rfl rfl
    | setVolumeMetadata id m =>
      obtain ⟨v, hv, h⟩ := find_bind_ok h
      cases h
      exact .of_insert rfl hv rfl rfl
    | updateMetadata id m | deleteMetadata id keys | renameServer id name =>
      exact updateServer_resizes h
    | deleteSnapshot id =>
      obtain ⟨-, -, h⟩ := find_bind_ok h
      cases h
      exact .of_volumes_eq (Nat.le_refl _) rfl
    | createSnapshot r =>
      obtain ⟨-, -, h⟩ := find_bind_ok h
      cases h
      exact .of_volumes_eq (Nat.le_succ _) rfl
    | deletePorts _ | deleteMember _ _ _ =>
      cases h
      exact .of_volumes_eq (Nat.le_refl _) rfl
    | createServer _ | createPort _ _ | createMember _ _ _ _ _ =>
      cases h
      exact .of_volumes_eq (Nat.le_succ _) rfl
    | _ => cases hidle

theorem Reads.and {P P' : Resources → c.Answer → Prop} (h : Reads c P) (h' : Reads c P') :
    Reads c fun s a => P s a ∧ P' s a :=
  fun s a s' hs => ⟨(h s a s' hs).1, (h s a s' hs).2, (h' s a s' hs).2⟩

theorem reads_openService (service : Service) : Reads (.openService service) fun _ _ => True :=
  fun _ _ _ h => ⟨eq_of_isIdle rfl h, trivial⟩

theorem reads_sizeOf? (id : String) :
    Reads (.getVolume id) fun s v => s.sizeOf? id = some v.sizeGib := by
  intro s v s' h
  obtain ⟨rfl, stored, status, hstored, rfl⟩ := getVolume_ok h
  exact ⟨rfl, sizeOf?_of_some (v := stored) hstored⟩

/-! ## What other clients do -/

/-- A volume has the size it is to have, or it is gone and may have been deleted. -/
def Sized (deleted : String → Prop) (id : String) (size? : Option UInt32) (s : Resources) : Prop :=
  s.sizeOf? id = size? ∨ s.sizeOf? id = none ∧ deleted id

theorem Sized.eq {size? : Option UInt32} {size : UInt32} (h : s.Sized deleted id size?)
    (hsize : s.sizeOf? id = some size) : size? = some size := by
  rcases h with hsame | ⟨hnone, -⟩
  · rw [← hsame, hsize]
  · rw [hnone] at hsize
    cases hsize

/-- What other clients do to volumes and servers: servers and attachments go away, and some
    volumes are deleted, but no volume changes its size. -/
structure Erodes (deleted : String → Prop) (s s' : Resources) : Prop extends s.Disturbs s' where
  sizes id : s'.Sized deleted id (s.sizeOf? id)

theorem Sized.erodes {size? : Option UInt32} (h : s.Sized deleted id size?)
    (h' : s.Erodes deleted s') : s'.Sized deleted id size? := by
  rcases h'.sizes id with hsame | hgone
  · rwa [Sized, hsame]
  · exact .inr hgone

namespace Erodes

theorem of_eq (hflavors : s'.flavors = s.flavors) (hvolumes : s'.volumes = s.volumes)
    (hservers : s'.servers = s.servers) : s.Erodes deleted s' where
  flavors := hflavors
  attachments id := by rw [attachmentsOn_congr (congrArg (·.get? id) hvolumes)]
  servers id := .inl (flavorIdOf?_congr (congrArg (·.get? id) hservers))
  sizes id := .inl (sizeOf?_congr (congrArg (·.get? id) hvolumes))

theorem refl (s : Resources) : s.Erodes deleted s := of_eq rfl rfl rfl

theorem trans (h : s.Erodes deleted s') (h' : s'.Erodes deleted s'') : s.Erodes deleted s'' where
  toDisturbs := h.toDisturbs.trans h'.toDisturbs
  sizes id := (h.sizes id).erodes h'

/-- A volume that still exists has the size that it had. -/
theorem sizeOf?_eq (h : s.Erodes deleted s') {size : UInt32} (hsize : s'.sizeOf? id = some size) :
    s.sizeOf? id = some size := (h.sizes id).eq hsize

end Erodes

end Resources

open Resources

variable {s s' : Resources} {deleted : String → Prop}

theorem Cloud.resizes_answer (c : Call) (cloud : Cloud) :
    Resizes c cloud.resources (cloud.answer c).2.resources :=
  Cloud.answer_resources c cloud (.of_volumes_eq (Nat.le_refl _) rfl) fun _ _ h => answer_resizes h

theorem Interference.erodes (i : Interference) (hdeleted : ∀ id, i = .deleteVolume id → deleted id)
    {a : i.call.Answer} (h : Resources.answer i.call s = .ok (a, s')) : s.Erodes deleted s' where
  toDisturbs := i.disturbs h
  sizes id := by
    cases (answer_resizes h).sizes id with
    | kept hsize => exact .inl hsize
    | deleted hcall hsize =>
      refine .inr ⟨hsize, hdeleted id ?_⟩
      cases i <;> cases hcall
      rfl
    | extended old size hcall => cases i <;> cases hcall
    | created r hcall => cases i <;> cases hcall

theorem Cloud.erodes_interferes (cloud : Cloud) (i : Interference)
    (hdeleted : ∀ id, i = .deleteVolume id → deleted id) :
    cloud.resources.Erodes deleted (cloud.answer i.call).2.resources :=
  Cloud.answer_resources i.call cloud (.refl _) fun _ _ h => i.erodes hdeleted h

end CloudProvider
