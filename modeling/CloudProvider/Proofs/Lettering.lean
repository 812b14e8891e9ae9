import CloudProvider.Proofs.FreeLetters
import CloudProvider.Proofs.NoTrace

/-!
# Letters at every moment

Where volumes are attached as the devices asked for, the devices of a server are distinct
at every moment, because a disk is only attached under a free letter.

* `Lettered`: what holds at every moment (`Moment.PlainStep.lettered`);
* `Resources.DistinctDevices`: what that means for the devices of a server;
* `Resources.Lists`: and for the disks that the server is told to have;
* `Moment.letters_of_reachable`: both, at every moment.
-/

namespace CloudProvider

open Program Lifecycle Resources

variable {s s' : Resources} {settings : Settings} {command : Command} {vmId diskId : String}

/-! ## Distinct devices -/

/-- Where no device is reported, a volume is attached as the device asked for. -/
theorem Resources.attachVolume_places {device : String} (hreported : s.reportedDevices = ∅)
    (hfree : s.attachmentsOn diskId = []) {a : Attachment}
    (h : s.attachVolume vmId diskId device = .ok (a, s')) :
    (∃ id, s.flavorIdOf? vmId = some id) ∧ (∀ id, s'.flavorIdOf? id = s.flavorIdOf? id) ∧
      s'.issued = s.issued ∧ s'.flavors = s.flavors ∧
      ∀ id, s'.attachmentsOn id =
        if id = diskId then [⟨diskId, vmId, device⟩] else s.attachmentsOn id := by
  obtain ⟨server, hserver, h⟩ := find_bind_ok h
  obtain ⟨v, hv, h⟩ := find_bind_ok h
  obtain ⟨rfl, rfl⟩ := Prod.mk.inj (Except.ok.inj h)
  rw [attachmentsOn_of_some hv] at hfree
  refine ⟨⟨server.flavorId, Option.map_eq_some_iff.2 ⟨server, hserver, rfl⟩⟩, fun _ => rfl, rfl,
    rfl, fun id => ?_⟩
  rw [attachmentsOn_insert rfl, hfree, hreported]
  rfl

/-- What holds at every moment: no server has an id that is to be given out, no volume is
    attached twice, every device lies in the range of its server, and no two volumes share
    a device of a server. -/
structure Lettered (settings : Settings) (s : Resources) : Prop where
  fresh {id} : s.Unissued "server" id → s.flavorIdOf? id = none
  single id : (s.attachmentsOn id).length ≤ 1
  own {id a} : a ∈ s.attachmentsOn id → a.volumeId = id
  ranged {vmId a} : a ∈ s.attachmentsTo vmId → ∃ flavor, s.flavorOf? vmId = some flavor ∧
    a.device ∈ Device.devicesFrom (Device.reservations flavor settings.configDrive)
  distinct {id id' a a'} : a ∈ s.attachmentsOn id → a' ∈ s.attachmentsOn id' →
    a.serverId = a'.serverId → a.device = a'.device → id = id'

namespace Lettered

theorem loosens (h : Lettered settings s) (hs : s.Loosens s') : Lettered settings s' where
  fresh {id} hid := by
    have hnone := h.fresh (hid.mono hs.issued)
    rcases hs.servers id with hsame | ⟨hgone, -⟩ | ⟨-, hissued⟩
    · rw [hsame, hnone]
    · exact hgone
    · exact absurd hid hissued
  single id := Nat.le_trans (hs.attachments id).length_le (h.single id)
  own ha := h.own ((hs.attachments _).subset ha)
  ranged {vmId a} ha := by
    obtain ⟨flavor, hflavor, hdevice⟩ := h.ranged (hs.attachmentsTo ha)
    rcases hs.servers vmId with hsame | ⟨-, hnone⟩ | ⟨hnone, -⟩
    · refine ⟨flavor, ?_, hdevice⟩
      rw [flavorOf?, hsame, hs.flavors]
      exact hflavor
    · rw [hnone] at ha
      cases ha
    · rw [flavorOf?, hnone] at hflavor
      cases hflavor
  distinct ha ha' := h.distinct ((hs.attachments _).subset ha) ((hs.attachments _).subset ha')

/-- An unattached volume may be attached under a free letter. -/
theorem attachVolume (h : Lettered settings s) (hreported : s.reportedDevices = ∅)
    (hfree : s.attachmentsOn diskId = []) {letter : Char}
    (hletter : s.LetterFree settings vmId letter) {a : Attachment}
    (hs : s.attachVolume vmId diskId (Device.path letter) = .ok (a, s')) :
    Lettered settings s' := by
  obtain ⟨⟨flavorId, hflavorId⟩, hplace, hissued, hflavors, hon⟩ :=
    attachVolume_places hreported hfree hs
  obtain ⟨⟨flavor, hflavor, hrange⟩, hunused⟩ := hletter
  -- An attachment is the new one, or one that was there before.
  have hold {id : String} {a : Attachment} (ha : a ∈ s'.attachmentsOn id) :
      (id = diskId ∧ a = ⟨diskId, vmId, Device.path letter⟩) ∨ a ∈ s.attachmentsOn id := by
    rw [hon] at ha
    split at ha
    · rename_i hid
      exact .inl ⟨hid, List.mem_singleton.1 ha⟩
    · exact .inr ha
  have hother {id : String} {a : Attachment} (ha : a ∈ s.attachmentsOn id)
      (hvm : a.serverId = vmId) : a.device ≠ Device.path letter := by
    intro hdevice
    have hfalse := hunused a (mem_attachmentsTo_iff.2 ⟨⟨id, ha⟩, hvm⟩)
    rw [hdevice, Device.occupies_path.2 rfl] at hfalse
    cases hfalse
  have hsame (id : String) : s'.flavorOf? id = s.flavorOf? id := by
    rw [flavorOf?, flavorOf?, hplace, hflavors]
  refine ⟨fun hid => ?_, fun id => ?_, fun ha => ?_, fun ha => ?_, fun ha ha' hvm hdevice => ?_⟩
  · rw [hplace]
    exact h.fresh (hid.mono (Nat.le_of_eq hissued.symm))
  · rw [hon]
    split
    · exact Nat.le_refl 1
    · exact h.single id
  · rcases hold ha with ⟨rfl, rfl⟩ | ha
    · rfl
    · exact h.own ha
  · obtain ⟨⟨id, ha⟩, hvm⟩ := mem_attachmentsTo_iff.1 ha
    rw [hsame]
    rcases hold ha with ⟨rfl, rfl⟩ | ha
    · obtain rfl := hvm
      refine ⟨flavor, ?_, List.mem_map_of_mem (Device.mem_lettersFrom_iff.2 hrange)⟩
      rw [flavorOf?, hflavorId]
      exact hflavor flavorId hflavorId
    · exact h.ranged (mem_attachmentsTo_iff.2 ⟨⟨id, ha⟩, hvm⟩)
  · rcases hold ha with ⟨rfl, rfl⟩ | ha
    · rcases hold ha' with ⟨rfl, rfl⟩ | ha'
      · rfl
      · exact absurd hdevice.symm (hother ha' hvm.symm)
    · rcases hold ha' with ⟨rfl, rfl⟩ | ha'
      · exact absurd hdevice (hother ha hvm)
      · exact h.distinct ha ha' hvm hdevice

end Lettered

namespace Moment

/-- What happens next where volumes are attached as the devices asked for. -/
def PlainStep (settings : Settings) (m m' : Moment) : Prop :=
  Step settings m m' ∧ m'.cloud.resources.reportedDevices = ∅

theorem lettered_answers {c : Call} {cloud : Cloud} (h : Lettered settings cloud.resources)
    (hreported : cloud.resources.reportedDevices = ∅)
    (hc : (lettering settings command).permits c cloud.resources) :
    Lettered settings (cloud.answer c).2.resources := by
  cases hanswer : cloud.answer c with
  | mk r cloud' =>
    cases r with
    | error e =>
      rw [Cloud.answer_resources_of_error hanswer]
      exact h
    | ok a =>
      have hs := Cloud.answer_ok hanswer
      have hfresh (r : ServerRequest) (_ : c = .createServer r) :
          cloud.resources.servers.get? (cloud.resources.nextId "server") = none :=
        flavorIdOf?_eq_none_iff.1 (h.fresh (unissued_nextId _ _))
      cases c with
      | attachVolume vmId diskId device =>
        obtain ⟨-, hfree, letter, rfl, hletter⟩ := hc
        exact h.attachVolume hreported hfree hletter hs
      | _ => exact h.loosens (answer_loosens id hfresh hs)

theorem PlainStep.lettered {m m' : Moment} (hstep : PlainStep settings m m')
    (hcareful : m.Careful settings) (hreported : m.cloud.resources.reportedDevices = ∅)
    (h : Lettered settings m.cloud.resources) : Lettered settings m'.cloud.resources := by
  obtain ⟨hstep, -⟩ := hstep
  cases hstep with
  | starts c chance cloud => exact h
  | ends c r cloud => exact h
  | sleeps c ms next cloud => exact h
  | answers c call next took cloud => exact lettered_answers h hreported (hcareful c _ rfl).1
  | refuses c call next took e cloud => exact h
  | interferes m i =>
    have hpermits : (lettering settings (.hasVm "")).permits i.call m.cloud.resources :=
      lettering_permits (not_attaches_call i) _
    exact lettered_answers h hreported hpermits
  | injects m operation i => exact h
  | pins m volumeId status =>
    exact h.loosens (.of_volumes_eq rfl (Nat.le_refl _) rfl rfl)
  | reports m volumeId device =>
    exact h.loosens (.of_volumes_eq rfl (Nat.le_refl _) rfl rfl)

theorem lettered_of_reachable {cloud : Cloud} (h : Lettered settings cloud.resources)
    (hreported : cloud.resources.reportedDevices = ∅) {m : Moment}
    (hm : Relation.ReflTransGen (PlainStep settings) ⟨none, cloud⟩ m) :
    Lettered settings m.cloud.resources := by
  have hkept : m.Careful settings ∧ m.cloud.resources.reportedDevices = ∅ ∧
      Lettered settings m.cloud.resources := by
    induction hm with
    | refl => exact ⟨nofun, hreported, h⟩
    | tail _ hstep ih =>
      obtain ⟨hcareful, hreported, h⟩ := ih
      exact ⟨hstep.1.careful hcareful, hstep.2, hstep.lettered hcareful hreported h⟩
  exact hkept.2.2

end Moment

/-! ## What is seen of the devices of a server -/

/-- The devices of a server are distinct, and under letters of its range. Together with the
    letters that are reserved they are no more than there are letters from `b` on. -/
structure Resources.DistinctDevices (settings : Settings) (vmId : String) (s : Resources) :
    Prop where
  nodup : ((s.attachmentsTo vmId).map (·.device)).Nodup
  ranged : s.attachmentsTo vmId = [] ∨ ∃ flavor, s.flavorOf? vmId = some flavor ∧
    (s.attachmentsTo vmId).length + (if 0 < flavor.ephemeralGib then 1 else 0) +
      (if 0 < flavor.swapMib then 1 else 0) +
        (if settings.configDrive = some .disk then 1 else 0) ≤ 25 ∧
    ∀ a ∈ s.attachmentsTo vmId, ∃ letter, a.device = Device.path letter ∧
      Device.firstLetter flavor settings.configDrive ≤ letter ∧ letter ≤ 'z'

/-- Some disks are those attached to a server, each of them once, in the order of their
    letters. -/
structure Resources.Lists (vmId : String) (disks : List String) (s : Resources) : Prop where
  nodup : disks.Nodup
  mem_iff diskId : diskId ∈ disks ↔ ∃ a ∈ s.attachmentsOn diskId, a.serverId = vmId
  letters : ∃ letters : List Char, letters.Pairwise (· < ·) ∧
    List.Forall₂ (fun diskId letter => ∃ a ∈ s.attachmentsOn diskId,
      a.serverId = vmId ∧ a.device = Device.path letter) disks letters

namespace Lettered

theorem distinctDevices (h : Lettered settings s) (vmId : String) :
    s.DistinctDevices settings vmId := by
  have hnodup : ((s.attachmentsTo vmId).map (·.device)).Nodup :=
    nodup_map_attachmentsTo h.single fun id id' a a' ha ha' hvm hvm' =>
      h.distinct ha ha' (hvm.trans hvm'.symm)
  refine ⟨hnodup, ?_⟩
  cases hl : s.attachmentsTo vmId with
  | nil => exact .inl rfl
  | cons a rest =>
    rw [← hl]
    obtain ⟨flavor, hflavor, -⟩ := h.ranged (hl ▸ List.mem_cons_self : a ∈ s.attachmentsTo vmId)
    have hdevices {a : Attachment} (ha : a ∈ s.attachmentsTo vmId) :
        a.device ∈ Device.devicesFrom (Device.reservations flavor settings.configDrive) := by
      obtain ⟨flavor', hflavor', hdevice⟩ := h.ranged ha
      rwa [Option.some.inj (hflavor.symm.trans hflavor')]
    refine .inr ⟨flavor, hflavor, ?_, fun a ha => ?_⟩
    · have hsubset : (s.attachmentsTo vmId).map (·.device) ⊆
          Device.devicesFrom (Device.reservations flavor settings.configDrive) := by
        intro device hdevice
        obtain ⟨a, ha, rfl⟩ := List.mem_map.1 hdevice
        exact hdevices ha
      have hlength := (List.subperm_of_subset hnodup hsubset).length_le
      rw [List.length_map, Device.devicesFrom, List.length_map, Device.length_lettersFrom]
        at hlength
      have hle := Device.reservations_le flavor settings.configDrive
      rw [Device.reservations_eq] at hlength hle
      omega
    · obtain ⟨letter, hletter, hdevice⟩ := List.mem_map.1 (hdevices ha)
      exact ⟨letter, hdevice.symm, Device.mem_lettersFrom_iff.1 hletter⟩

/-- Sorted by their devices, the attachments to a server are sorted by their letters. -/
theorem lists (h : Lettered settings s) (vmId : String) :
    s.Lists vmId (((s.attachmentsTo vmId).mergeSort fun a b => a.device ≤ b.device).map
      (·.volumeId)) := by
  have hsorted := @List.pairwise_mergeSort Attachment (fun a b => a.device ≤ b.device)
    (fun a b c hab hbc => decide_eq_true
      (String.le_trans (of_decide_eq_true hab) (of_decide_eq_true hbc)))
    (fun a b => by simpa using String.le_total a.device b.device) (s.attachmentsTo vmId)
  have hperm := List.mergeSort_perm (s.attachmentsTo vmId) fun a b => a.device ≤ b.device
  generalize (s.attachmentsTo vmId).mergeSort _ = sorted at hsorted hperm
  have hdistinct := (hperm.map (·.device)).nodup_iff.2 (h.distinctDevices vmId).nodup
  have hstored {a : Attachment} (ha : a ∈ sorted) :
      a ∈ s.attachmentsOn a.volumeId ∧ a.serverId = vmId := by
    obtain ⟨⟨id, ha⟩, hvm⟩ := mem_attachmentsTo_iff.1 (hperm.subset ha)
    exact ⟨(h.own ha).symm ▸ ha, hvm⟩
  refine ⟨?_, fun diskId => ?_, ?_⟩
  · refine (hperm.map (·.volumeId)).nodup_iff.2 (nodup_map_attachmentsTo h.single ?_)
    exact fun id id' a a' ha ha' _ _ heq => (h.own ha).symm.trans (heq.trans (h.own ha'))
  · rw [List.mem_map]
    constructor
    · rintro ⟨a, ha, rfl⟩
      exact ⟨a, hstored ha⟩
    · rintro ⟨a, ha, hvm⟩
      exact ⟨a, hperm.symm.subset (mem_attachmentsTo_iff.2 ⟨⟨diskId, ha⟩, hvm⟩), h.own ha⟩
  · have hletter : ∀ a ∈ sorted, ∃ letter, a.device = Device.path letter := by
      intro a ha
      obtain ⟨flavor, -, hdevice⟩ := h.ranged (hperm.subset ha)
      obtain ⟨letter, -, hdevice⟩ := List.mem_map.1 hdevice
      exact ⟨letter, hdevice.symm⟩
    choose! letterOf hletterOf using hletter
    refine ⟨sorted.map letterOf, ?_, ?_⟩
    · rw [List.pairwise_map]
      refine (hsorted.and (List.pairwise_map.1 hdistinct)).imp_of_mem fun {a b} ha hb hab => ?_
      obtain ⟨hle, hne⟩ := hab
      rw [← Device.path_lt_path_iff, ← hletterOf a ha, ← hletterOf b hb]
      have hle : ¬ b.device < a.device := of_decide_eq_true hle
      exact Decidable.not_not.1 fun hlt => hne (Table.eq_of_not_lt hlt hle)
    · refine List.forall₂_map_left_iff.2 (List.forall₂_map_right_iff.2 (List.forall₂_same.2 ?_))
      exact fun a ha => ⟨a, (hstored ha).1, (hstored ha).2, hletterOf a ha⟩

end Lettered

theorem Schedule.answer_of_leads_ok {schedule : Schedule} {c : Call} {x x' : Nat × Cloud}
    {took : Nat} {a : c.Answer}
    (h : (Backend.world schedule.backend).leads c x ⟨took, .ok a⟩ x') :
    Resources.answer c x.2.resources = .ok (a, x'.2.resources) := by
  obtain ⟨now, h⟩ := h
  exact Cloud.answer_ok (Schedule.backend_ok h)

/-- A server that can be asked for its disks tells those attached to it. -/
theorem Lifecycle.getDisks_ok {schedule : Schedule} {now n : Nat} {cloud : Cloud}
    {disks : List String}
    (h : ((getDisks vmId).run.run schedule.backend now (n, cloud)).result = .ok disks) :
    disks = ((cloud.resources.attachmentsTo vmId).mergeSort fun a b =>
      a.device ≤ b.device).map (·.volumeId) := by
  have hensures : (getDisks vmId).run.Ensures (Backend.world schedule.backend)
      (fun r _ => ∀ disks, r = .ok disks →
        disks = ((cloud.resources.attachmentsTo vmId).mergeSort fun a b =>
          a.device ≤ b.device).map (·.volumeId)) (n, cloud) := by
    refine Operation.ensures_bind.2 (Operation.ensures_ask.2 ⟨trivial, ?_⟩)
    rintro ⟨took, outcome⟩ x hl
    cases outcome with
    | error e => exact nofun
    | ok a =>
      have hopen := Schedule.answer_of_leads_ok hl
      obtain ⟨-, hx⟩ := Prod.mk.inj (Except.ok.inj hopen)
      refine Operation.ensures_bind.2 (Operation.ensures_askFor.2 ⟨trivial, ?_⟩)
      rintro ⟨took, outcome⟩ x' hl
      cases outcome with
      | error e => exact nofun
      | ok attachments =>
        obtain ⟨-, rfl⟩ := reads_listAttachments _ _ _ _ (Schedule.answer_of_leads_ok hl)
        rintro disks ⟨⟩
        rw [← hx]
  exact hensures.of_run disks h

/-! ## Every moment -/

/-- Where a run may begin: nothing is attached, no device is reported, and no server has an
    id that is to be given out. -/
structure Resources.Vacant (s : Resources) : Prop where
  unattached {id v} : s.volumes.get? id = some v → v.attachments = []
  unreported : s.reportedDevices = ∅
  fresh {id} : s.Unissued "server" id → s.servers.get? id = none

theorem Resources.Vacant.lettered (h : s.Vacant) (settings : Settings) : Lettered settings s := by
  have hnone (id : String) : s.attachmentsOn id = [] := by
    refine List.eq_nil_iff_forall_not_mem.2 fun a ha => ?_
    obtain ⟨v, hv, ha⟩ := mem_attachmentsOn.1 ha
    rw [h.unattached hv] at ha
    cases ha
  refine ⟨fun hid => flavorIdOf?_eq_none_iff.2 (h.fresh hid), fun id => ?_, fun {id a} ha => ?_,
    fun {vmId a} ha => ?_, fun {id id' a a'} ha => ?_⟩
  · simp [hnone]
  · simp [hnone] at ha
  · simp [mem_attachmentsTo_iff, hnone] at ha
  · simp [hnone] at ha

namespace Moment

/-- A disk is only attached under a letter in the range of its server that no device of the
    server ends in when it is asked for. So from where nothing is attached, and where
    volumes are attached as the devices asked for, the devices of a server are distinct at
    every moment, and a server that can be asked for its disks tells them by letter. -/
theorem letters_of_reachable (settings : Settings) (cloud : Cloud) :
    (∀ m, Relation.ReflTransGen (Step settings) ⟨none, cloud⟩ m →
      ∀ (c : Command) vmId diskId device next,
        m.running = some ⟨c, .call (.attachVolume vmId diskId device) next⟩ →
          (c = .attachDisk vmId diskId ∨ c = .attachDiskWithHint vmId diskId) ∧
            ∃ letter, device = Device.path letter ∧
              m.cloud.resources.LetterFree settings vmId letter) ∧
      (cloud.resources.Vacant →
        ∀ m, Relation.ReflTransGen (PlainStep settings) ⟨none, cloud⟩ m → ∀ vmId,
          m.cloud.resources.DistinctDevices settings vmId ∧
            ∀ (schedule : Schedule) now n disks,
              ((getDisks vmId).run.run schedule.backend now (n, m.cloud)).result = .ok disks →
                m.cloud.resources.Lists vmId disks) := by
  constructor
  · intro m hm c vmId diskId device next hnext
    obtain ⟨hmakes, -, hletter⟩ := (careful_of_reachable hm c _ hnext).1
    refine ⟨?_, hletter⟩
    cases c with
    | attachDisk vmId' diskId' =>
      obtain ⟨rfl, rfl⟩ := hmakes
      exact .inl rfl
    | attachDiskWithHint vmId' diskId' =>
      obtain ⟨rfl, rfl⟩ := hmakes
      exact .inr rfl
    | _ => exact hmakes.elim
  · intro hvacant m hm vmId
    have hlettered := lettered_of_reachable (hvacant.lettered settings) hvacant.unreported hm
    refine ⟨hlettered.distinctDevices vmId, fun schedule now n disks hdisks => ?_⟩
    rw [getDisks_ok hdisks]
    exact hlettered.lists vmId

/-- A cloud with a free volume and a server that has an ephemeral disk. -/
def flavoredCloud : Cloud := ({} : Cloud).seed fun s =>
  ((s.addFlavor ⟨"small", "small", 1, 1024, 10, 20, 0⟩).addServer "vm" "small").addVolume "disk" 10

theorem vacant_flavoredCloud : flavoredCloud.resources.Vacant where
  unattached hv := by
    obtain rfl := Table.eq_of_get?_singleton hv rfl
    rfl
  unreported := rfl
  fresh {id} hid := by
    refine Table.get?_insert_of_ne _ _ ?_
    rintro rfl
    exact absurd hid.prefix_id (by decide)

/-- The second letter is reserved for the ephemeral disk, so the first disk gets the third. -/
theorem letters_of_reachable_flavoredCloud :
    ∃ m m' : Moment,
      Relation.ReflTransGen (PlainStep {}) ⟨none, flavoredCloud⟩ m ∧ PlainStep {} m m' ∧
      (∃ letter, "/dev/sdc" = Device.path letter ∧ m.cloud.resources.LetterFree {} "vm" letter) ∧
      (m'.cloud.resources.attachmentsTo "vm").map (·.device) = ["/dev/sdc"] ∧
      m'.cloud.resources.DistinctDevices {} "vm" := by
  obtain ⟨looks, attaches, cloud, hrun, hlooks, hcalm, hcloud⟩ :
      ∃ looks attaches cloud, Relation.ReflTransGen (PlainStep {}) ⟨none, flavoredCloud⟩
          ⟨some ⟨.attachDisk "vm" "disk", .call (.listAttachments "vm") looks⟩, cloud⟩ ∧
        looks ⟨0, .ok []⟩ = .call (.attachVolume "vm" "disk" "/dev/sdc") attaches ∧
        cloud.Calm ∧ cloud.resources = flavoredCloud.resources :=
    ⟨_, _, _, .head ⟨.starts (.attachDisk "vm" "disk") default flavoredCloud, rfl⟩ <|
      .head ⟨.answers _ (.openService .compute) _ 0 _, rfl⟩ <|
      .head ⟨.answers _ (.openService .volume) _ 0 _, rfl⟩ <|
      .head ⟨.answers _ (.getVolume "disk") _ 0 _, rfl⟩ <|
      .head ⟨.answers _ (.getServer "vm") _ 0 _, rfl⟩ <|
      .single ⟨.answers _ (.getFlavor "small") _ 0 _, rfl⟩, rfl, ⟨rfl, rfl⟩, rfl⟩
  -- Nothing is listed yet, so the first letter of the range is asked for.
  have hnone : flavoredCloud.resources.attachmentsTo "vm" = [] := rfl
  have hlist : cloud.resources.serve (.listAttachments "vm") =
      (.ok [], flavoredCloud.resources) := by
    have hserver : flavoredCloud.resources.servers.get? "vm" =
      some ⟨"vm", "vm", .active, "small", ∅, some "nova"⟩ := rfl
    rw [hcloud, serve_listAttachments hserver, hnone, List.mergeSort_nil]
  obtain ⟨listed, hlisted, hlistedResources, hlistedCalm⟩ := hcalm.answer (.listAttachments "vm")
  rw [hlist] at hlisted hlistedResources
  have hlists : Step {} _ _ := .answers (.attachDisk "vm" "disk") _ looks 0 cloud
  rw [hlisted, hlooks] at hlists
  obtain ⟨attached, hattached, hattachedResources, -⟩ :=
    hlistedCalm.answer (.attachVolume "vm" "disk" "/dev/sdc")
  rw [hlistedResources] at hattached hattachedResources
  have hattaches : Step {} _ _ := .answers (.attachDisk "vm" "disk") _ attaches 0 listed
  rw [hattached] at hattaches
  have hasks := hrun.tail ⟨hlists, by rw [hlistedResources]; rfl⟩
  have hattaches : PlainStep {} _ _ := ⟨hattaches, by rw [hattachedResources]; rfl⟩
  obtain ⟨hletters, hdevices⟩ := letters_of_reachable {} flavoredCloud
  refine ⟨_, _, hasks, hattaches, ?_, ?_, ?_⟩
  · have hplain : PlainStep {} ≤ Step {} := fun _ _ h => h.1
    exact (hletters _ (Relation.ReflTransGen.mono hplain _ _ hasks) _ _ _ _ _ rfl).2
  · rw [hattachedResources]
    decide +kernel
  · exact (hdevices vacant_flavoredCloud _ (hasks.tail hattaches) "vm").1

end Moment

end CloudProvider
