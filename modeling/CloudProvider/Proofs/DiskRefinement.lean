import CloudProvider.Proofs.DiskInvariant

/-!
# Disks refine a machine

On a simulated cloud that is left alone, every operation on disks tells what the
machine of disks tells, and what it makes of the cloud is what the machine makes of
itself. So does every run of such operations.

* `Refines`: an operation does what the machine does, and leaves tidy resources;
* `serve_refines`: every operation on disks does;
* `Session.disks_refine`: after any run of them, so does the next.
-/

namespace CloudProvider

namespace Lifecycle

open Operation

variable {α : Type} {settings : Settings} {reserved : String → Nat} {s s' : Resources}
  {vmId diskId : String}

/-- An operation tells an outcome, and leaves tidy resources that amount to a machine. -/
def Refines (settings : Settings) (reserved : String → Nat) (s : Resources) (p : Operation α)
    (o : Except OperationError α × DiskMachine) : Prop :=
  ∃ s', p.serve s = (o.1, s') ∧ s'.diskMachine = o.2 ∧ Tidy settings reserved s'

/-- An operation that changes nothing. -/
theorem Refines.idle (h : Tidy settings reserved s) {p : Operation α}
    {r : Except OperationError α} (hp : p.serve s = (r, s)) :
    Refines settings reserved s p (r, s.diskMachine) := ⟨s, hp, rfl, h⟩

/-- An operation that amounts to another. -/
theorem Refines.of_serve {p p' : Operation α} {o : Except OperationError α × DiskMachine}
    (h : Refines settings reserved s p o) (hp : p'.serve s = p.serve s) :
    Refines settings reserved s p' o := by
  obtain ⟨s', hserve, hrest⟩ := h
  exact ⟨s', hp.trans hserve, hrest⟩

/-- A server that exists is given a free letter, unless it holds a disk for every letter. -/
theorem serve_nextDevicePath (h : Tidy settings reserved s) {server : Server}
    (hserver : s.servers.get? vmId = some server) :
    (25 - reserved vmId ≤ (s.diskMachine.held vmId).length ∧
      (nextDevicePath settings vmId).serve s = (.error (.noFreeDeviceLetter vmId), s)) ∨
    (¬ 25 - reserved vmId ≤ (s.diskMachine.held vmId).length ∧
      ∃ device, (nextDevicePath settings vmId).serve s = (.ok device, s) ∧
        device ∈ Device.devicesFrom (reserved vmId) ∧
        ∀ a ∈ s.attachmentsTo vmId, a.device ≠ device) := by
  obtain ⟨flavor, hflavor, hreserved⟩ := h.flavored hserver
  -- The order in which the cloud lists attachments does not matter for letters.
  let attachments := (s.attachmentsTo vmId).mergeSort fun a b => a.device ≤ b.device
  have hused : (attachments.map (·.device)).Perm ((s.attachmentsTo vmId).map (·.device)) :=
    (List.mergeSort_perm _ _).map _
  have hiff := h.nextLetter?_eq_none_iff hreserved hused
  have hserve : (nextDevicePath settings vmId).serve s = _ :=
    (serve_bind_ok (serve_askFor (Resources.serve_getServer hserver) "VM" vmId)).trans <|
    (serve_bind_ok (serve_ask (Resources.serve_getFlavor hflavor) _)).trans <|
    serve_bind_ok (serve_ask (Resources.serve_listAttachments hserver) _)
  rw [hserve]
  cases hletter : Device.nextLetter? flavor settings.configDrive (attachments.map (·.device)) with
  | none => exact .inl ⟨hiff.1 hletter, rfl⟩
  | some letter =>
    obtain ⟨hmem, hfresh⟩ := Device.nextLetter?_fresh hletter
    refine .inr ⟨fun hfull => ?_, Device.path letter, rfl, ?_, ?_⟩
    · rw [hiff.2 hfull] at hletter
      cases hletter
    · exact List.mem_map_of_mem (hreserved ▸ hmem)
    · rintro a ha hdevice
      exact hfresh (hdevice ▸ hused.symm.subset (List.mem_map_of_mem ha))

/-! ## Attachment -/

theorem attachFree_refines (h : Tidy settings reserved s) {v : Volume}
    (hv : s.volumes.get? diskId = some v) (hfree : v.IsFree) :
    Refines settings reserved s (attachFree settings vmId diskId)
      (s.diskMachine.attach (reserved vmId) vmId diskId) := by
  have hdisk : s.diskMachine.disks.get? diskId = some ⟨v.sizeGib, none⟩ := by
    rw [s.get?_disks, hv]
    simp [Volume.disk, Volume.holder?, hfree.1]
  rw [DiskMachine.attach, hdisk, s.contains_vms]
  cases hserver : s.servers.get? vmId with
  | none =>
    have hpath : (nextDevicePath settings vmId).serve s = (.error (.notFound "VM" vmId), s) :=
      serve_bind_error (serve_askFor (Resources.serve_getServer_none hserver) "VM" vmId)
    simp only [Table.contains_of_none hserver]
    exact .idle h (serve_bind_error hpath)
  | some server =>
    simp only [Table.contains_of_some hserver]
    rcases serve_nextDevicePath h hserver with
      ⟨hfull, hpath⟩ | ⟨hroom, device, hpath, hdevice, hunused⟩
    · rw [if_pos hfull]
      exact .idle h (serve_bind_error hpath)
    · rw [if_neg hroom]
      have hattach := Resources.serve_of_ok (c := .attachVolume vmId diskId device)
        (h.attachVolume_eq hserver hv hfree.1 device)
      have hattached := s.get?_putVolume_self diskId (v.attached ⟨diskId, vmId, device⟩)
      have hawait := serve_awaitVolume hattached (h.unpinned_get? _) settings
      refine ⟨_, ?_, s.diskMachine_putVolume _ _, h.attachVolume hserver hv hfree.1 hdevice hunused⟩
      exact (serve_bind_ok hpath).trans <|
        (serve_bind_ok (serve_askRepeatedly hattach settings _ _)).trans hawait

/-- A disk that is to be attached is read first. -/
theorem serve_attachDisk {v : Volume} (hv : s.volumes.get? diskId = some v)
    (hpinned : s.pinnedStatuses.get? diskId = none) (vmId : String) :
    (attachDisk settings vmId diskId).serve s =
      (match v.attachmentElsewhere? vmId, v.attachmentTo? vmId with
        | some other, _ =>
          throw <| .conflict <|
            "Volume '" ++ diskId ++ "' is attached to another VM '" ++ other.serverId ++ "'"
        | none, some _ => pure ()
        | none, none =>
          if v.status ≠ .available then
            throw <| .conflict <|
              "Cannot attach volume '" ++ diskId ++ "', state is '" ++ v.status.text ++ "'"
          else attachFree settings vmId diskId : Operation Unit).serve s := by
  have hvolume := serve_askFor (Resources.serve_getVolume hv hpinned) "disk" diskId
  have hread : (attachUnlessAttached settings vmId diskId).serve s = _ :=
    (serve_bind_ok (serve_openCompute s)).trans <|
    (serve_bind_ok (serve_openVolume s)).trans <| serve_bind_ok hvolume
  cases hother : v.attachmentElsewhere? vmId with
  | some other =>
    rw [hother] at hread
    exact serve_bind_error hread
  | none =>
    cases hsame : v.attachmentTo? vmId with
    | some existing =>
      rw [hother, hsame] at hread
      exact serve_bind_ok hread
    | none =>
      simp only [hother, hsame] at hread ⊢
      by_cases hstatus : v.status = .available
      · rw [if_neg (not_not.2 hstatus)] at hread ⊢
        cases hfree : (attachFree settings vmId diskId).serve s with
        | mk r s' =>
          cases r with
          | ok a => exact serve_bind_ok (hread.trans (serve_bind_ok hfree))
          | error e => exact serve_bind_error (hread.trans (serve_bind_error hfree))
      · rw [if_pos hstatus] at hread ⊢
        exact serve_bind_error hread

theorem attach_refines (h : Tidy settings reserved s) (vmId diskId : String) :
    Refines settings reserved s (attachDisk settings vmId diskId)
      (s.diskMachine.attach (reserved vmId) vmId diskId) := by
  have hdisk := s.get?_disks diskId
  cases hv : s.volumes.get? diskId with
  | none =>
    rw [hv] at hdisk
    rw [DiskMachine.attach, hdisk]
    have hread : (attachUnlessAttached settings vmId diskId).serve s =
        (.error (.notFound "disk" diskId), s) :=
      (serve_bind_ok (serve_openCompute s)).trans <|
      (serve_bind_ok (serve_openVolume s)).trans <|
      serve_bind_error (serve_askFor (Resources.serve_getVolume_none hv) "disk" diskId)
    exact .idle h (serve_bind_error hread)
  | some v =>
    have hserve : (attachDisk settings vmId diskId).serve s = _ :=
      serve_attachDisk hv (h.unpinned_get? _) vmId
    rcases h.consistent diskId v hv with hfree | ⟨a, hattachments, -, -, -⟩
    · have hother : v.attachmentElsewhere? vmId = none := by
        simp [Volume.attachmentElsewhere?, hfree.1]
      have hsame : v.attachmentTo? vmId = none := by simp [Volume.attachmentTo?, hfree.1]
      refine (attachFree_refines h hv hfree).of_serve ?_
      simpa [hother, hsame, hfree.2] using hserve
    · have hholder : s.diskMachine.disks.get? diskId = some ⟨v.sizeGib, some a.serverId⟩ := by
        simpa [hv, Volume.disk, Volume.holder?, hattachments] using hdisk
      rw [DiskMachine.attach, hholder]
      by_cases hvm : a.serverId = vmId
      · simp only [hvm, if_true]
        refine .idle h ?_
        simpa [Volume.attachmentElsewhere?, Volume.attachmentTo?, hattachments, hvm] using hserve
      · simp only [hvm, if_false]
        refine .idle h ?_
        simpa [Volume.attachmentElsewhere?, Volume.attachmentTo?, hattachments, hvm] using hserve

/-! ## Detachment -/

theorem detachVolume_eq {v : Volume} {a : Attachment} (hv : s.volumes.get? diskId = some v)
    (hattachments : v.attachments = [a]) :
    s.detachVolume a.serverId diskId = .ok ((), s.putVolume diskId v.freed) := by
  rw [Resources.detachVolume, Resources.find_of_some hv]
  simp only [bind, Except.bind, pure, Except.pure, hattachments]
  simp [Resources.putVolume, Volume.freed]

/-- The order in which the attachments to a server are listed does not matter. -/
theorem any_volumeId :
    ((s.attachmentsTo vmId).mergeSort fun a b => a.device ≤ b.device).any
      (·.volumeId = diskId) = true ↔ diskId ∈ (s.attachmentsTo vmId).map (·.volumeId) := by
  rw [List.any_eq_true, List.mem_map]
  simp only [decide_eq_true_eq, (List.mergeSort_perm _ _).mem_iff]

/-- A disk is detached from a server if one of the attachments to the server is of it. -/
theorem serve_detachDisk {server : Server} (hserver : s.servers.get? vmId = some server)
    (diskId : String) :
    (detachDisk settings vmId diskId).serve s =
      (if diskId ∈ (s.attachmentsTo vmId).map (·.volumeId) then do
        askRepeatedly settings "detach_volume" (.detachVolume vmId diskId)
          ("Failed to detach volume '" ++ diskId ++ "' from VM '" ++ vmId ++ "'")
        awaitVolume settings diskId .available
      else return () : Operation Unit).serve s := by
  have hread : (detachDisk settings vmId diskId).serve s = _ :=
    (serve_bind_ok (serve_openCompute s)).trans <|
    (serve_bind_ok (serve_openVolume s)).trans <|
    (serve_bind_ok (serve_askFor (Resources.serve_getServer hserver) "VM" vmId)).trans <|
    serve_bind_ok (serve_ask (Resources.serve_listAttachments hserver) _)
  simp only [any_volumeId] at hread
  exact hread

theorem detach_refines (h : Tidy settings reserved s) (vmId diskId : String) :
    Refines settings reserved s (detachDisk settings vmId diskId)
      (s.diskMachine.detach vmId diskId) := by
  rw [DiskMachine.detach, s.contains_vms]
  cases hserver : s.servers.get? vmId with
  | none =>
    simp only [Table.contains_of_none hserver]
    refine .idle h <| (serve_bind_ok (serve_openCompute s)).trans <|
      (serve_bind_ok (serve_openVolume s)).trans <|
      serve_bind_error (serve_askFor (Resources.serve_getServer_none hserver) "VM" vmId)
  | some server =>
    simp only [Table.contains_of_some hserver]
    have hread : (detachDisk settings vmId diskId).serve s = _ := serve_detachDisk hserver diskId
    rw [Resources.map_attachmentsTo h.consistent] at hread
    by_cases hheld : diskId ∈ s.diskMachine.held vmId
    · rw [if_pos hheld]
      obtain ⟨d, hd, hholder⟩ := DiskMachine.mem_held.1 hheld
      rw [s.get?_disks, Option.map_eq_some_iff] at hd
      obtain ⟨v, hv, rfl⟩ := hd
      obtain ⟨a, hattachments, rfl⟩ : ∃ a, v.attachments = [a] ∧ a.serverId = vmId := by
        rcases h.consistent diskId v hv with hfree | ⟨a, hattachments, -, -, -⟩
        · simp [Volume.disk, Volume.holder?, hfree.1] at hholder
        · refine ⟨a, hattachments, ?_⟩
          simpa [Volume.disk, Volume.holder?, hattachments] using hholder
      rw [if_pos hheld] at hread
      have hdetach := Resources.serve_of_ok (c := .detachVolume a.serverId diskId)
        (detachVolume_eq hv hattachments)
      have hawait := serve_awaitVolume (s.get?_putVolume_self diskId v.freed)
        (h.unpinned_get? _) settings
      refine ⟨_, hread.trans <|
        (serve_bind_ok (serve_askRepeatedly hdetach settings _ _)).trans hawait, ?_,
        h.putVolume hv (.inl v.isFree_freed)⟩
      rw [s.diskMachine_putVolume, Table.modify, s.get?_disks, hv]
      rfl
    · rw [if_neg hheld] at hread ⊢
      exact .idle h hread

/-! ## Size -/

theorem extendVolume_eq {v : Volume} (hv : s.volumes.get? diskId = some v) (sizeGib : UInt32) :
    Resources.answer (.extendVolume diskId sizeGib) s =
      .ok ((), s.putVolume diskId { v with sizeGib := sizeGib }) := by
  show s.updateVolume diskId _ = _
  rw [Resources.updateVolume, Resources.find_of_some hv]
  rfl

theorem resize_refines (h : Tidy settings reserved s) (diskId : String) (sizeGib : UInt32) :
    Refines settings reserved s (resizeDisk settings diskId sizeGib)
      (s.diskMachine.resize diskId sizeGib) := by
  have hdisk := s.get?_disks diskId
  cases hv : s.volumes.get? diskId with
  | none =>
    rw [hv] at hdisk
    rw [DiskMachine.resize, hdisk]
    exact .idle h <| (serve_bind_ok (serve_openVolume s)).trans <|
      serve_bind_error (serve_askFor (Resources.serve_getVolume_none hv) "disk" diskId)
  | some v =>
    rw [hv] at hdisk
    have hread : (resizeDisk settings diskId sizeGib).serve s = _ :=
      (serve_bind_ok (serve_openVolume s)).trans <|
      serve_bind_ok (serve_askFor (Resources.serve_getVolume hv (h.unpinned_get? _)) "disk" diskId)
    rw [DiskMachine.resize, hdisk]
    rcases h.consistent diskId v hv with hfree | ⟨a, hattachments, -, -, -⟩
    · have hholder : v.disk = ⟨v.sizeGib, none⟩ := by
        simp [Volume.disk, Volume.holder?, hfree.1]
      simp only [Option.map_some, hholder, Option.isSome_none]
      simp only [hfree.1, List.isEmpty_nil] at hread
      by_cases hsmaller : sizeGib < v.sizeGib
      · rw [if_pos hsmaller]
        exact .idle h (hread.trans (by simp [hsmaller]))
      · rw [if_neg hsmaller]
        by_cases hsame : sizeGib = v.sizeGib
        · rw [if_pos hsame]
          exact .idle h (hread.trans (by simp [hsame]))
        · rw [if_neg hsame]
          let grown : Volume := { v with sizeGib := sizeGib }
          have hdisk : grown.disk = ⟨sizeGib, none⟩ := by
            simp [grown, Volume.disk, Volume.holder?, hfree.1]
          have hstatus : grown.status = .available := hfree.2
          have hgrow := Resources.serve_of_ok (extendVolume_eq hv sizeGib)
          have hawait :=
            serve_awaitVolume (s.get?_putVolume_self diskId grown) (h.unpinned_get? _) settings
          rw [hstatus] at hawait
          simp only [hsmaller, hsame, if_false] at hread
          refine ⟨s.putVolume diskId grown, hread.trans <|
            (serve_bind_ok (serve_askRepeatedly hgrow settings _ _)).trans hawait, ?_,
            h.putVolume hv (.inr ⟨rfl, rfl⟩)⟩
          rw [s.diskMachine_putVolume, hdisk]
          rfl
    · have hholder : v.disk = ⟨v.sizeGib, some a.serverId⟩ := by
        simp [Volume.disk, Volume.holder?, hattachments]
      simp only [Option.map_some, hholder, Option.isSome_some, if_true]
      exact .idle h (hread.trans (by simp [hattachments]))

/-! ## Deletion -/

theorem tidy_deleteVolume (h : Tidy settings reserved s) {v : Volume}
    (hv : s.volumes.get? diskId = some v) :
    Tidy settings reserved { s with volumes := s.volumes.erase diskId } := by
  refine h.of_attachesNothing
    (Resources.deleteVolume_attachesNothing h.consistent
      (Resources.answer_of_serve_ok (Resources.serve_deleteVolume hv)))
    (fun _ _ hid => hid) rfl rfl rfl fun id hid => ?_
  rw [Table.get?_erase, h.unissued hid, ite_self]

theorem delete_refines (h : Tidy settings reserved s) (diskId : String) :
    Refines settings reserved s (deleteDisk settings diskId) (s.diskMachine.delete diskId) := by
  have hdisk := s.get?_disks diskId
  cases hv : s.volumes.get? diskId with
  | none =>
    rw [hv] at hdisk
    rw [DiskMachine.delete, hdisk]
    exact .idle h <| (serve_bind_ok (serve_openVolume s)).trans <|
      serve_bind_ok (serve_attempt (Resources.serve_getVolume_none hv))
  | some v =>
    rw [hv] at hdisk
    have hread : (deleteDisk settings diskId).serve s = _ :=
      (serve_bind_ok (serve_openVolume s)).trans <|
      serve_bind_ok (serve_attempt (Resources.serve_getVolume hv (h.unpinned_get? _)))
    rw [DiskMachine.delete, hdisk]
    rcases h.consistent diskId v hv with hfree | ⟨a, hattachments, hstatus, -, -⟩
    · have hholder : v.disk.holder = none := by
        simp [Volume.disk, Volume.holder?, hfree.1]
      simp only [Option.map_some, hholder, Option.isSome_none]
      simp only [hfree.2, ne_eq, not_true_eq_false, if_false] at hread
      let s' : Resources := { s with volumes := s.volumes.erase diskId }
      have hdelete := Resources.serve_deleteVolume hv
      have hawait : (awaitVolume settings diskId .deleted).serve s' = (.ok (), s') :=
        serve_awaitVolume_none (Table.get?_erase_self _ _) settings
      refine ⟨s', hread.trans <| (serve_bind_ok (serve_ask hdelete _)).trans hawait, ?_,
        tidy_deleteVolume h hv⟩
      rw [Resources.diskMachine, Table.map_erase]
      rfl
    · have hholder : v.disk.holder = some a.serverId := by
        simp [Volume.disk, Volume.holder?, hattachments]
      simp only [Option.map_some, hholder, Option.isSome_some, if_true]
      exact .idle h (hread.trans (by simp [hstatus]))

/-! ## Questions -/

theorem has_refines (h : Tidy settings reserved s) (diskId : String) :
    Refines settings reserved s (hasDisk diskId)
      (.ok (s.diskMachine.disks.contains diskId), s.diskMachine) := by
  rw [Table.contains, s.get?_disks, Option.isSome_map]
  cases hv : s.volumes.get? diskId with
  | none =>
    exact .idle h <| (serve_bind_ok (serve_openVolume s)).trans <|
      serve_bind_ok (serve_attempt (Resources.serve_getVolume_none hv))
  | some v =>
    have hread : (hasDisk diskId).serve s = (.ok (v.status ≠ .deleted : Bool), s) :=
      (serve_bind_ok (serve_openVolume s)).trans <|
      serve_bind_ok (serve_attempt (Resources.serve_getVolume hv (h.unpinned_get? _)))
    refine .idle h (hread.trans ?_)
    rcases h.consistent diskId v hv with ⟨-, hstatus⟩ | ⟨a, -, hstatus, -, -⟩ <;> simp [hstatus]

/-- The disks of a server, in the order of their devices. -/
theorem serve_getDisks (h : Tidy settings reserved s) (vmId : String) :
    ∃ r, (getDisks vmId).serve s = (r, s) ∧
      (DiskCommand.list vmId).Agrees r (s.diskMachine.list vmId).1 := by
  rw [DiskMachine.list, s.contains_vms]
  cases hserver : s.servers.get? vmId with
  | none =>
    refine ⟨_, (serve_bind_ok (serve_openCompute s)).trans <|
      serve_bind_error (serve_askFor (Resources.serve_listAttachments_none hserver) "VM" vmId), ?_⟩
    rw [Table.contains_of_none hserver]
    rfl
  | some server =>
    refine ⟨_, (serve_bind_ok (serve_openCompute s)).trans <|
      serve_bind_ok (serve_askFor (Resources.serve_listAttachments hserver) "VM" vmId), ?_⟩
    rw [Table.contains_of_some hserver]
    show List.Perm _ (s.diskMachine.held vmId)
    rw [← Resources.map_attachmentsTo h.consistent]
    exact (List.mergeSort_perm _ _).map _

/-! ## Creation -/

/-- The zone of a new disk is found, or the machine knows why it is not. -/
theorem serve_zoneFor (settings : Settings) (vmId : Option String) (s : Resources) :
    (∃ zone, s.diskMachine.zoneFault settings vmId = none ∧
      (zoneFor settings vmId).serve s = (.ok zone, s)) ∨
    ∃ e, s.diskMachine.zoneFault settings vmId = some e ∧
      (zoneFor settings vmId).serve s = (.error e, s) := by
  cases vmId with
  | none => exact .inl ⟨none, rfl, rfl⟩
  | some vmId =>
    simp only [zoneFor, DiskMachine.zoneFault, s.contains_vms]
    cases hignore : settings.ignoreServerZone with
    | true => exact .inl ⟨none, rfl, rfl⟩
    | false =>
      cases hserver : s.servers.get? vmId with
      | none =>
        refine .inr ⟨_, by rw [Table.contains_of_none hserver]; rfl, ?_⟩
        exact (serve_bind_ok (serve_openCompute s)).trans <|
          serve_bind_error (serve_ask (Resources.serve_getServerZone_none hserver) _)
      | some server =>
        refine .inl ⟨some (server.zone.getD Resources.standardZone),
          by rw [Table.contains_of_some hserver]; rfl, ?_⟩
        exact (serve_bind_ok (serve_openCompute s)).trans <|
          serve_bind_ok (serve_ask (Resources.serve_getServerZone hserver) _)

theorem tidy_createVolume (h : Tidy settings reserved s) {r : VolumeRequest} {v : Volume}
    (hs : s.createVolume r = .ok (v, s')) : Tidy settings reserved s' := by
  have hnothing := Resources.createVolume_attachesNothing h.consistent hs
  cases hs
  refine h.of_attachesNothing hnothing (fun _ _ hid => hid) rfl rfl rfl fun id hid => ?_
  have hne : id ≠ s.nextId "volume" := by
    rintro rfl
    exact Resources.not_unissued_nextId (Nat.lt_succ_self s.issued) hid
  exact (Table.get?_insert_of_ne _ _ hne).trans
    (h.unissued (hid.mono (Nat.le_succ s.issued)))

theorem create_refines (h : Tidy settings reserved s) (chance : Chance) (sizeMib : UInt32)
    (properties : DiskProperties) (vmId : Option String) :
    Refines settings reserved s (createDisk settings chance sizeMib properties vmId)
      (s.diskMachine.create settings (s.nextId "volume") sizeMib vmId) := by
  unfold createDisk DiskMachine.create
  by_cases hsmall : sizeMib < minDiskSizeMib
  · rw [if_pos hsmall, if_pos hsmall]
    exact .idle h rfl
  · rw [if_neg hsmall, if_neg hsmall]
    rcases serve_zoneFor settings vmId s with ⟨zone, hfault, hzone⟩ | ⟨e, hfault, hzone⟩
    · let request : VolumeRequest := {
        name := "volume-" ++ chance.token
        sizeGib := gibFor sizeMib
        volumeType := properties.volumeType.or settings.defaultVolumeType
        zone := zone }
      obtain ⟨v, s', hcreate⟩ : ∃ v s', s.createVolume request = .ok (v, s') := ⟨_, _, rfl⟩
      have htidy := tidy_createVolume h hcreate
      have hserve := Resources.serve_of_ok (c := .createVolume request) hcreate
      cases hcreate
      have hawait :=
        serve_awaitVolume (Table.get?_insert_self _ _ _) (htidy.unpinned_get? _) settings
      rw [hfault]
      refine ⟨_, (serve_bind_ok (serve_openVolume s)).trans <| (serve_bind_ok hzone).trans <|
        (serve_bind_ok (serve_ask hserve _)).trans (serve_bind_ok hawait), ?_, htidy⟩
      rw [Resources.diskMachine, Table.map_insert]
      rfl
    · rw [hfault]
      exact .idle h <| (serve_bind_ok (serve_openVolume s)).trans (serve_bind_error hzone)

/-! ## Deletion of a server -/

theorem disk_releaseFrom {servers : Table Server} {id : String} {v : Volume}
    (h : v.IsFree ∨ v.IsHeld servers id) (vmId : String) :
    (Resources.releaseFrom vmId v).disk = v.disk.release vmId := by
  rcases h with ⟨hattachments, -⟩ | ⟨a, hattachments, -, -, -⟩
  · simp [Resources.releaseFrom, Volume.disk, Volume.holder?, Disk.release, hattachments]
  · by_cases hvm : a.serverId = vmId <;>
      simp [Resources.releaseFrom, Volume.disk, Volume.holder?, Disk.release, hattachments, hvm]

theorem serve_deleteServer (h : Tidy settings reserved s) (vmId : String) :
    Refines settings reserved s (deleteServer vmId) (.ok (), s.diskMachine.deleteVm vmId) := by
  cases hserver : s.servers.get? vmId with
  | none =>
    have hdelete : s.deleteServer vmId = .error (.notFound "server" vmId) := by
      rw [Resources.deleteServer, Resources.find_of_none hserver]
      rfl
    have hvms : s.diskMachine.vms.erase vmId = s.diskMachine.vms := by
      refine Table.erase_eq_self ?_
      rw [Resources.diskMachine, Table.get?_map, hserver]
      rfl
    have hdisks : s.diskMachine.disks.map (Disk.release vmId) = s.diskMachine.disks := by
      refine (Table.map_map _ _ _).trans (Table.map_congr fun id v hv => ?_)
      -- No volume is attached to a server that does not exist.
      have hrelease : Resources.releaseFrom vmId v = v := by
        rcases h.consistent id v hv with ⟨hattachments, hstatus⟩ |
          ⟨a, hattachments, -, -, hexists⟩
        · exact Resources.releaseFrom_eq_self (by simp [hattachments]) (by simp [hstatus])
        · refine Resources.releaseFrom_eq_self ?_ (by simp [hattachments])
          rw [hattachments]
          rintro a' ha' rfl
          rw [← List.mem_singleton.1 ha', Table.contains_of_none hserver] at hexists
          cases hexists
      rw [Function.comp, ← disk_releaseFrom (h.consistent id v hv), hrelease]
    refine ⟨s, serve_bind_ok (serve_attempt (c := .deleteServer vmId)
      (Resources.serve_of_error hdelete)), ?_, h⟩
    rw [DiskMachine.deleteVm, hvms, hdisks]
  | some server =>
    let s' : Resources :=
      { s with
        servers := s.servers.erase vmId
        volumes := s.volumes.map (Resources.releaseFrom vmId)
        serverPorts := s.serverPorts.erase vmId }
    have hdelete : s.deleteServer vmId = .ok ((), s') := by
      rw [Resources.deleteServer, Resources.find_of_some hserver]
      rfl
    refine ⟨s', serve_bind_ok (serve_attempt (c := .deleteServer vmId)
      (Resources.serve_of_ok hdelete)), ?_, ?_⟩
    · have hdisks : s'.diskMachine.disks = s.diskMachine.disks.map (Disk.release vmId) := by
        refine (Table.map_map _ _ _).trans (Eq.trans (Table.map_congr fun id v hv => ?_)
          (Table.map_map _ _ _).symm)
        exact disk_releaseFrom (h.consistent id v hv) vmId
      rw [DiskMachine.deleteVm, ← hdisks, Resources.diskMachine, Table.map_erase]
      rfl
    · refine h.of_attachesNothing
        (Resources.deleteServer_attachesNothing h.consistent hdelete) (fun id server hid => ?_)
        rfl rfl rfl fun id hid => ?_
      · rw [Table.get?_erase] at hid
        split at hid
        · cases hid
        · exact hid
      · exact (Table.get?_map _ _ _).trans (by rw [h.unissued hid]; rfl)

/-- Which ports there are is of no concern to disks. -/
theorem deletePorts_refines (h : Tidy settings reserved s) (vmId : String) (ports : List Port) :
    Refines settings reserved s (deletePorts vmId ports) (.ok (), s.diskMachine) := by
  unfold deletePorts
  split
  · exact .idle h rfl
  · have hserve := Resources.serve_of_ok (c := .deletePorts ports) (s := s) rfl
    exact ⟨_, serve_ask hserve _, rfl, { h with }⟩

theorem deleteVm_refines (h : Tidy settings reserved s) (vmId : String) :
    Refines settings reserved s (deleteVm settings vmId)
      (.ok (), s.diskMachine.deleteVm vmId) := by
  obtain ⟨ports, hports⟩ : ∃ ports, (portsOf vmId).serve s = (.ok ports, s) := ⟨_, rfl⟩
  obtain ⟨metadata, hmetadata, hmemberships⟩ : ∃ metadata,
      (metadataOf vmId).serve s = (.ok metadata, s) ∧
        Membership.ofMetadata vmId metadata = .ok [] := by
    cases hserver : s.servers.get? vmId with
    | none =>
      exact ⟨∅, serve_bind_ok (serve_attempt (Resources.serve_getMetadata_none hserver)), rfl⟩
    | some server =>
      exact ⟨server.metadata, serve_bind_ok (serve_attempt (Resources.serve_getMetadata hserver)),
        h.untagged hserver⟩
  obtain ⟨s₁, hserver, hmachine, h₁⟩ := serve_deleteServer h vmId
  obtain ⟨s₂, hdeletePorts, hmachine₂, h₂⟩ := deletePorts_refines h₁ vmId ports
  refine ⟨s₂, ?_, hmachine₂.trans hmachine, h₂⟩
  refine (serve_bind_ok (serve_openCompute s)).trans <|
    (serve_bind_ok (serve_openNetwork s)).trans <|
    (serve_bind_ok (serve_openLoadBalancer s)).trans <|
    (serve_bind_ok hports).trans <| (serve_bind_ok hmetadata).trans <|
    (serve_bind_ok (a := []) ?_).trans <| (serve_bind_ok (serve_pure () s)).trans <|
    (serve_bind_ok hserver).trans hdeletePorts
  rw [hmemberships]
  rfl

/-! ## Commands -/

/-- Whatever is asked of the disks, the machine knows the answer. -/
theorem serve_refines (h : Tidy settings reserved s) (chance : Chance) (c : DiskCommand) :
    ∃ r s', (c.command.operation settings chance).serve s = (r, s') ∧
      c.Agrees r (s.diskMachine.step settings reserved (s.nextId "volume") c).1 ∧
      s'.diskMachine = (s.diskMachine.step settings reserved (s.nextId "volume") c).2 ∧
      Tidy settings reserved s' := by
  cases c with
  | create sizeMib properties vmId =>
    obtain ⟨s', hserve, hrest⟩ := create_refines h chance sizeMib properties vmId
    exact ⟨_, s', hserve, rfl, hrest⟩
  | attach vmId diskId =>
    obtain ⟨s', hserve, hrest⟩ := attach_refines h vmId diskId
    exact ⟨_, s', hserve, rfl, hrest⟩
  | detach vmId diskId =>
    obtain ⟨s', hserve, hrest⟩ := detach_refines h vmId diskId
    exact ⟨_, s', hserve, rfl, hrest⟩
  | resize diskId sizeGib =>
    obtain ⟨s', hserve, hrest⟩ := resize_refines h diskId sizeGib
    exact ⟨_, s', hserve, rfl, hrest⟩
  | delete diskId =>
    obtain ⟨s', hserve, hrest⟩ := delete_refines h diskId
    exact ⟨_, s', hserve, rfl, hrest⟩
  | has diskId =>
    obtain ⟨s', hserve, hrest⟩ := has_refines h diskId
    exact ⟨_, s', hserve, rfl, hrest⟩
  | list vmId =>
    obtain ⟨r, hserve, hagrees⟩ := serve_getDisks h vmId
    refine ⟨r, s, hserve, hagrees, ?_, h⟩
    rw [DiskMachine.step, DiskMachine.list]
    split <;> rfl
  | deleteVm vmId =>
    obtain ⟨s', hserve, hrest⟩ := deleteVm_refines h vmId
    exact ⟨_, s', hserve, rfl, hrest⟩

end Lifecycle

/-! ## Sessions -/

open Lifecycle

/-- The number of letters that a server has reserved: one for an ephemeral disk and one for a
    swap disk, if its flavor has them, and one for a config drive, if the settings make it a
    disk. -/
def Resources.reserved (settings : Settings) (s : Resources) (vmId : String) : Nat :=
  ((s.servers.get? vmId).bind fun server => s.flavors.find? (·.id = server.flavorId)).elim 0
    fun flavor => (if 0 < flavor.ephemeralGib then 1 else 0) +
      (if 0 < flavor.swapMib then 1 else 0) +
        if settings.configDrive = some .disk then 1 else 0

/-- Resources with servers of known flavors that take part in no pool, and with free
    volumes, none of them under an id that is to be given out. -/
structure Resources.Stocked (s : Resources) : Prop where
  flavored {id server} : s.servers.get? id = some server →
    ∃ flavor ∈ s.flavors, flavor.id = server.flavorId
  untagged {id server} : s.servers.get? id = some server →
    ∀ name, Membership.isTagName name = true → server.metadata.get? name = none
  free {id v} : s.volumes.get? id = some v → v.IsFree
  unissued {id} : s.Unissued "volume" id → s.volumes.get? id = none
  unpinned : s.pinnedStatuses = ∅
  unreported : s.reportedDevices = ∅

theorem Resources.Stocked.tidy {s : Resources} (h : s.Stocked) (settings : Settings) :
    Tidy settings (s.reserved settings) s where
  consistent _ _ hv := .inl (h.free hv)
  flavored := by
    intro id server hserver
    obtain ⟨flavor, hmem, hid⟩ := h.flavored hserver
    obtain ⟨found, hfound⟩ : ∃ found, s.flavors.find? (·.id = server.flavorId) = some found :=
      Option.isSome_iff_exists.1 (List.find?_isSome.2 ⟨flavor, hmem, decide_eq_true hid⟩)
    exact ⟨found, hfound, by simp [Resources.reserved, hserver, hfound, Device.reservations_eq]⟩
  untagged := by
    intro id server hserver
    have hentries : server.metadata.entries.filter (Membership.isTagName ·.1) = [] := by
      refine List.filter_eq_nil_iff.2 fun e he htag => ?_
      have hnone := h.untagged hserver e.1 htag
      rw [Table.mem_entries.1 he] at hnone
      cases hnone
    rw [Membership.ofMetadata, hentries]
    rfl
  unpinned := h.unpinned
  unreported := h.unreported
  unissued := h.unissued
  devices hv ha := by
    rw [(h.free hv).1] at ha
    cases ha
  distinct hv _ ha := by
    rw [(h.free hv).1] at ha
    cases ha

namespace Session

/-- A session after some commands. -/
def after (settings : Settings) (commands : List (DiskCommand × Chance)) (s : Session) : Session :=
  commands.foldl (fun s c => (s.run (c.1.command.operation settings c.2)).2) s

theorem tidy_after {settings : Settings} {reserved : String → Nat} {s : Session} (hs : s.Calm)
    (h : Tidy settings reserved s.cloud.resources) (commands : List (DiskCommand × Chance)) :
    (s.after settings commands).Calm ∧
      Tidy settings reserved (s.after settings commands).cloud.resources := by
  -- Servers may go but none comes, so the same letters stay reserved throughout.
  induction commands generalizing s with
  | nil => exact ⟨hs, h⟩
  | cons c commands ih =>
    obtain ⟨-, hserved⟩ := s.run_of_calm hs (c.1.command.operation settings c.2)
    obtain ⟨r, s', hserve, -, -, htidy⟩ := serve_refines h c.2 c.1
    rw [hserve] at hserved
    exact ih hserved.calm (hserved.resources.symm ▸ htidy)

/-- After any run of commands, the next does what the machine of disks does. -/
theorem disks_refine (settings : Settings) {s : Session} (hs : s.Calm)
    (hstocked : s.cloud.resources.Stocked) (before : List (DiskCommand × Chance))
    (c : DiskCommand) (chance : Chance) :
    let s₁ := s.after settings before
    let m := s₁.cloud.resources.diskMachine
    let fresh := s₁.cloud.resources.nextId "volume"
    let o := s₁.run (c.command.operation settings chance)
    let o' := m.step settings (s.cloud.resources.reserved settings) fresh c
    m.disks.get? fresh = none ∧ c.Agrees o.1 o'.1 ∧ o.2.cloud.resources.diskMachine = o'.2 := by
  intro s₁ m fresh o o'
  obtain ⟨hcalm, htidy⟩ := tidy_after hs (hstocked.tidy settings) before
  obtain ⟨hresult, hserved⟩ := s₁.run_of_calm hcalm (c.command.operation settings chance)
  obtain ⟨r, s', hserve, hagrees, hmachine, -⟩ := serve_refines htidy chance c
  rw [hserve] at hresult hserved
  refine ⟨?_, hresult.symm ▸ hagrees, ?_⟩
  · rw [Resources.get?_disks, htidy.unissued (Resources.unissued_nextId _ _)]
    rfl
  · rw [hserved.resources]
    exact hmachine

/-- A session with a flavor, a server and a free volume. -/
def stockedSession : Session where
  cloud := ({} : Cloud).seed fun s =>
    ((s.addFlavor ⟨"1", "small", 1, 1024, 10, 0, 0⟩).addServer "vm" "1").addVolume "disk" 10

theorem stocked_stockedSession : stockedSession.cloud.resources.Stocked where
  flavored := by
    intro id server hserver
    obtain rfl := Table.eq_of_get?_singleton hserver rfl
    exact ⟨_, List.mem_singleton_self _, rfl⟩
  untagged := by
    intro id server hserver name _
    obtain rfl := Table.eq_of_get?_singleton hserver rfl
    rfl
  free := by
    intro id v hv
    obtain rfl := Table.eq_of_get?_singleton hv rfl
    exact ⟨rfl, rfl⟩
  unissued := by
    intro id hid
    have hne : id ≠ "disk" := by
      rintro rfl
      exact absurd hid.prefix_id (by decide)
    exact Table.get?_insert_of_ne ∅ _ hne
  unpinned := rfl
  unreported := rfl

/-- A disk that was attached is held, and detached again it is not. -/
theorem disks_refine_detached :
    let s₁ := stockedSession.after {} [(.attach "vm" "disk", default)]
    let m := s₁.cloud.resources.diskMachine
    let o := s₁.run ((DiskCommand.detach "vm" "disk").command.operation {} default)
    m.held "vm" = ["disk"] ∧ o.1.isOk = true ∧
      o.2.cloud.resources.diskMachine = (m.detach "vm" "disk").2 ∧
      o.2.cloud.resources.diskMachine.held "vm" = [] := by
  have hcalm : stockedSession.Calm := ⟨rfl, rfl, rfl, rfl, rfl, rfl⟩
  obtain ⟨-, -, hmachine⟩ := disks_refine {} hcalm stocked_stockedSession
    [(.attach "vm" "disk", default)] (.detach "vm" "disk") default
  exact ⟨by decide +kernel, by decide +kernel, hmachine, by decide +kernel⟩

end Session

end CloudProvider
