import CloudProvider.Proofs.Asking
import CloudProvider.Proofs.DiskRefinement

/-!
# Detaching a disk undoes attaching it

Attaching a free disk to a server adds one attachment and marks the disk as used, and
detaching it takes both back. So the resources are exactly those from before, whatever else is
attached and whichever device the backend chose; and since they determine the calls that are
made, the disk is attached again under the path that was asked for the first time. Detaching a
disk that a server does not have only looks, for every attachment names the volume it is
stored with.

* `Resources.Arises`: the resources that a simulated cloud can hold; `Resources.Labelled`: what
  all of them have in common;
* `attachDisk_attaching`: what is done to a disk that was free when it is attached;
* `serve_detachDisk_attached`, `serve_detachDisk_unattached`: a disk that the server has, and
  one that it does not have;
* `Session.detachDisk_undoes_attachDisk`: the disk goes, everything else stays.
-/

namespace CloudProvider

open Program Lifecycle

/-! ## Attachments and their volumes -/

namespace Resources

/-- The resources that a simulated cloud can hold: some were put in place from outside, and some
    calls were answered. -/
inductive Arises : Resources → Prop
  | empty : Arises {}
  | answered {s s' : Resources} {c : Call} {a : c.Answer} : s.Arises →
    Resources.answer c s = .ok (a, s') → s'.Arises
  | volume {s : Resources} (id : String) (sizeGib : UInt32) : s.Arises →
    (s.addVolume id sizeGib).Arises
  | attachment {s : Resources} (volumeId serverId device : String) : s.Arises →
    (s.addAttachment volumeId serverId device).Arises
  | status {s : Resources} (volumeId : String) (status : VolumeStatus) : s.Arises →
    (s.modifyVolume volumeId fun v => { v with status := status }).Arises
  /-- Whatever is put in place that is no volume. -/
  | other {s s' : Resources} : s.Arises → s'.volumes = s.volumes → s'.Arises

/-- Every attachment names the volume that it is stored with. -/
def Labelled (s : Resources) : Prop := ∀ id, ∀ a ∈ s.attachmentsOn id, a.volumeId = id

variable {s s' : Resources}

theorem Labelled.of_subset (h : s.Labelled)
    (hsub : ∀ id, ∀ a ∈ s'.attachmentsOn id, a ∈ s.attachmentsOn id ∨ a.volumeId = id) :
    s'.Labelled :=
  fun id a ha => (hsub id a ha).elim (h id a) fun hid => hid

theorem Labelled.of_volumes_eq (h : s.Labelled) (hvolumes : s'.volumes = s.volumes) :
    s'.Labelled := by
  refine h.of_subset fun id a ha => .inl ?_
  rwa [attachmentsOn_congr (congrArg (·.get? id) hvolumes)] at ha

/-- One volume is put in place or changed. -/
theorem Labelled.insert (h : s.Labelled) {id : String} {v : Volume}
    (hvolumes : s'.volumes = s.volumes.insert id v)
    (hv : ∀ a ∈ v.attachments, a ∈ s.attachmentsOn id ∨ a.volumeId = id) : s'.Labelled := by
  refine h.of_subset fun key a ha => ?_
  rw [attachmentsOn_insert hvolumes] at ha
  split at ha
  · rename_i hkey
    exact hkey ▸ hv a ha
  · exact .inl ha

theorem Labelled.putVolume (h : s.Labelled) {id : String} {v : Volume}
    (hv : ∀ a ∈ v.attachments, a.volumeId = id) : (s.putVolume id v).Labelled :=
  h.insert rfl fun a ha => .inr (hv a ha)

theorem Labelled.modifyVolume (h : s.Labelled) {id : String} {change : Volume → Volume}
    (hchange : ∀ v, ∀ a ∈ (change v).attachments, a ∈ v.attachments ∨ a.volumeId = id) :
    (s.modifyVolume id change).Labelled := by
  cases hv : s.volumes.get? id with
  | none =>
    have hvolumes : (s.modifyVolume id change).volumes = s.volumes := by
      rw [Resources.modifyVolume, Table.modify, hv]
    exact h.of_volumes_eq hvolumes
  | some v =>
    have hvolumes : (s.modifyVolume id change).volumes = s.volumes.insert id (change v) := by
      rw [Resources.modifyVolume, Table.modify, hv]
    refine h.insert hvolumes fun a ha => ?_
    rw [attachmentsOn_of_some hv]
    exact hchange v a ha

theorem Labelled.answer (h : s.Labelled) {c : Call} {a : c.Answer}
    (hs : Resources.answer c s = .ok (a, s')) : s'.Labelled := by
  have hloosened (hc : ¬ c.Attaches) (hserver : ∀ r, c ≠ .createServer r) : s'.Labelled := by
    have hloosens := answer_loosens hc (fun r hr => absurd hr (hserver r)) hs
    exact h.of_subset fun key a ha => .inl ((hloosens.attachments key).subset ha)
  cases c with
  | attachVolume serverId volumeId device =>
    obtain ⟨_, -, hs⟩ := find_bind_ok hs
    obtain ⟨v, hv, hs⟩ := find_bind_ok hs
    cases hs
    refine h.insert rfl fun a ha => ?_
    rw [attachmentsOn_of_some hv]
    exact (List.mem_append.1 ha).imp_right fun ha => by rw [List.mem_singleton.1 ha]
  | createServer r =>
    cases hs
    exact h.of_volumes_eq rfl
  | _ => exact hloosened id fun _ => Call.noConfusion

theorem Arises.labelled (h : s.Arises) : s.Labelled := by
  induction h with
  | empty => exact nofun
  | answered _ hs ih => exact ih.answer hs
  | volume id sizeGib _ ih => exact ih.insert rfl nofun
  | attachment volumeId serverId device _ ih =>
    refine ih.modifyVolume fun v a ha => ?_
    exact (List.mem_append.1 ha).imp_right fun ha => by rw [List.mem_singleton.1 ha]
  | status volumeId status _ ih => exact ih.modifyVolume fun v a ha => .inl ha
  | other _ hvolumes ih => exact ih.of_volumes_eq hvolumes

/-- A disk that is not attached to a server is none of those that the server has. -/
theorem Labelled.not_mem_map_attachmentsTo (h : s.Labelled) {vmId diskId : String}
    (hvm : ∀ a ∈ s.attachmentsOn diskId, a.serverId ≠ vmId) :
    diskId ∉ (s.attachmentsTo vmId).map (·.volumeId) := by
  intro hmem
  obtain ⟨a, ha, rfl⟩ := List.mem_map.1 hmem
  obtain ⟨⟨id, ha⟩, hserver⟩ := mem_attachmentsTo_iff.1 ha
  exact hvm a (h id a ha ▸ ha) hserver

/-- A disk that was just attached to a server is attached to no other. -/
theorem serverId_ne_of_putVolume {vmId diskId device other : String} {v : Volume}
    (hother : other ≠ vmId) :
    ∀ a ∈ (s.putVolume diskId (v.attached ⟨diskId, vmId, device⟩)).attachmentsOn diskId,
      a.serverId ≠ other := by
  rw [attachmentsOn_of_some (s.get?_putVolume_self diskId _)]
  exact List.forall_mem_singleton.2 hother.symm

end Resources

/-- The path that a call asks for. -/
def Call.path? : Call → Option String
  | attachVolume _ _ device => some device
  | _ => none

theorem Call.path?_of_not_attaches {c : Call} (h : ¬ c.Attaches) : c.path? = none := by
  cases c with
  | attachVolume serverId volumeId device => exact absurd trivial h
  | _ => rfl

namespace Lifecycle

open Operation

variable {settings : Settings} {s s' : Resources} {vmId diskId : String} {v : Volume}

/-! ## Attaching a free disk -/

/-- A path is told for a server that exists, and nothing is changed for it. -/
theorem serve_nextDevicePath_ok {path : String}
    (h : (nextDevicePath settings vmId).serve s = (.ok path, s')) :
    s' = s ∧ ∃ server, s.servers.get? vmId = some server := by
  have hidle : Avoids (fun c => c.isIdle = false) (nextDevicePath settings vmId) :=
    avoids_nextDevicePath nofun nofun nofun
  have hkept := (ensures_of_idle hidle).serving_of_faltering.of_serve (s := s)
  rw [show Program.serve _ s = _ from h] at hkept
  refine ⟨hkept, ?_⟩
  cases hserver : s.servers.get? vmId with
  | some server => exact ⟨server, rfl⟩
  | none =>
    cases h.symm.trans (serve_bind_error
      (serve_askFor (Resources.serve_getServer_none hserver) "VM" vmId))

theorem asked_nextDevicePath (settings : Settings) (vmId : String) (s : Resources) :
    ((nextDevicePath settings vmId).asked s).filterMap Call.path? = [] := by
  have hquiet : Avoids Call.Attaches (nextDevicePath settings vmId) :=
    avoids_nextDevicePath nofun nofun nofun
  exact List.filterMap_eq_nil_iff.2 fun c hc =>
    Call.path?_of_not_attaches (Ensures.asked hquiet s c hc)

/-- A disk was attached to a server that exists and nothing else was done, by calls of which one
    asked for a path. The device that was reported then may be another. -/
structure Attaching (vmId diskId : String) (v : Volume) (s s' : Resources) (asked : List Call) :
    Prop where
  server : ∃ server, s.servers.get? vmId = some server
  attached : ∃ device, s' = s.putVolume diskId (v.attached ⟨diskId, vmId, device⟩)
  path : ∃ path, asked.filterMap Call.path? = [path]

theorem attachFree_attaching (hv : s.volumes.get? diskId = some v) (hfree : v.attachments = [])
    (hpinned : s.pinnedStatuses.get? diskId = none)
    (h : (attachFree settings vmId diskId).serve s = (.ok (), s')) :
    Attaching vmId diskId v s s' ((attachFree settings vmId diskId).asked s) := by
  obtain ⟨path, s₁, hpath, -⟩ := bind_of_serve h
  obtain ⟨rfl, server, hserver⟩ := serve_nextDevicePath_ok hpath
  let a : Attachment := ⟨diskId, vmId, (s₁.reportedDevices.get? diskId).getD path⟩
  have hattach := Resources.serve_of_ok (c := .attachVolume vmId diskId path)
    (Resources.attachVolume_eq hserver hv hfree path)
  have hattached := s₁.get?_putVolume_self diskId (v.attached a)
  have hserve : (attachFree settings vmId diskId).serve s₁ =
      (.ok (), s₁.putVolume diskId (v.attached a)) :=
    (serve_bind_ok hpath).trans <|
    (serve_bind_ok (serve_askRepeatedly hattach settings _ _)).trans <|
    serve_awaitVolume hattached hpinned settings
  have hasked : (attachFree settings vmId diskId).asked s₁ =
      (nextDevicePath settings vmId).asked s₁ ++
        [.attachVolume vmId diskId path, .getVolume diskId] := by
    refine (asked_bind_ok hpath).trans (congrArg _ ?_)
    refine (asked_bind_ok (serve_askRepeatedly hattach settings _ _)).trans ?_
    exact congrArg₂ _ (asked_askRepeatedly hattach settings _ _)
      (asked_awaitVolume hattached hpinned settings)
  refine ⟨⟨server, hserver⟩, ⟨a.device, congrArg Prod.snd (h.symm.trans hserve)⟩, path, ?_⟩
  rw [hasked, List.filterMap_append, asked_nextDevicePath]
  rfl

theorem attachDisk_attaching (hv : s.volumes.get? diskId = some v) (hfree : v.IsFree)
    (hpinned : s.pinnedStatuses.get? diskId = none)
    (h : (attachDisk settings vmId diskId).serve s = (.ok (), s')) :
    Attaching vmId diskId v s s' ((attachDisk settings vmId diskId).asked s) := by
  have hother : v.attachmentElsewhere? vmId = none := by
    simp [Volume.attachmentElsewhere?, hfree.1]
  have hsame : v.attachmentTo? vmId = none := by simp [Volume.attachmentTo?, hfree.1]
  have hvolume := serve_askFor (Resources.serve_getVolume hv hpinned) "disk" diskId
  obtain ⟨told, s₁, hunless, hdone⟩ := bind_of_serve h
  obtain rfl : s₁ = s' := congrArg Prod.snd hdone
  have hserve : (attachUnlessAttached settings vmId diskId).serve s = _ :=
    (serve_bind_ok (serve_openCompute s)).trans <|
    (serve_bind_ok (serve_openVolume s)).trans <| serve_bind_ok hvolume
  have hasked : (attachDisk settings vmId diskId).asked s = _ :=
    (asked_bind_ok hunless).trans <| congrArg (· ++ []) <|
    (asked_bind_ok (serve_openCompute s)).trans <| congrArg _ <|
    (asked_bind_ok (serve_openVolume s)).trans <| congrArg _ <| asked_bind_ok hvolume
  simp only [hother, hsame, hfree.2, ne_eq, not_true, if_false] at hserve hasked
  obtain ⟨_, s₂, hattach, hdone⟩ := bind_of_serve (hserve.symm.trans hunless)
  obtain rfl : s₂ = s₁ := congrArg Prod.snd hdone
  rw [asked_bind_ok hattach] at hasked
  have hcalls : (attachDisk settings vmId diskId).asked s =
      [.openService .compute, .openService .volume, .getVolume diskId] ++
        ((attachFree settings vmId diskId).asked s ++ []) ++ [] := hasked
  obtain ⟨hserver, hattached, path, hpath⟩ := attachFree_attaching hv hfree.1 hpinned hattach
  refine ⟨hserver, hattached, path, ?_⟩
  -- What is asked before and after asks for no path.
  simpa [hcalls, Call.path?, List.filterMap_cons] using hpath

/-! ## Detaching it -/

/-- A free disk that was attached to a server is detached again, and nothing remains of it. -/
theorem serve_detachDisk_attached {server : Server} (hserver : s.servers.get? vmId = some server)
    (hv : s.volumes.get? diskId = some v) (hfree : v.IsFree)
    (hpinned : s.pinnedStatuses.get? diskId = none) (settings : Settings) (device : String) :
    (detachDisk settings vmId diskId).serve
      (s.putVolume diskId (v.attached ⟨diskId, vmId, device⟩)) = (.ok (), s) := by
  let a : Attachment := ⟨diskId, vmId, device⟩
  let s' := s.putVolume diskId (v.attached a)
  have hv' : s'.volumes.get? diskId = some (v.attached a) := s.get?_putVolume_self _ _
  have hfreed : (v.attached a).freed = v := by
    rw [Volume.freed, Volume.attached, ← hfree.1, ← hfree.2]
  have hrestored : s'.putVolume diskId (v.attached a).freed = s := by
    simp only [s', Resources.putVolume, hfreed, Table.insert_insert, Table.insert_eq_self hv]
  have hmem : diskId ∈ (s'.attachmentsTo vmId).map (·.volumeId) :=
    List.mem_map_of_mem (Resources.mem_attachmentsTo.2
      ⟨diskId, _, hv', List.mem_singleton_self a, rfl⟩)
  have hdetach := Resources.serve_of_ok (c := .detachVolume vmId diskId)
    (detachVolume_eq hv' (a := a) rfl)
  rw [hrestored] at hdetach
  have hserve : (detachDisk settings vmId diskId).serve s' = _ :=
    serve_detachDisk (s := s') hserver diskId
  rw [if_pos hmem] at hserve
  refine hserve.trans ((serve_bind_ok (serve_askRepeatedly hdetach settings _ _)).trans ?_)
  exact hfree.2 ▸ serve_awaitVolume hv hpinned settings

/-- A disk that a server does not have is looked for. -/
theorem serve_detachDisk_unattached (h : s.Labelled) {server : Server}
    (hserver : s.servers.get? vmId = some server)
    (hvm : ∀ a ∈ s.attachmentsOn diskId, a.serverId ≠ vmId) (settings : Settings) :
    (detachDisk settings vmId diskId).serve s = (.ok (), s) ∧
      (detachDisk settings vmId diskId).asked s = [.openService .compute, .openService .volume,
        .getServer vmId, .listAttachments vmId] := by
  have hnone := h.not_mem_map_attachmentsTo hvm
  have hserve : (detachDisk settings vmId diskId).serve s = _ := serve_detachDisk hserver diskId
  rw [if_neg hnone] at hserve
  have hasked : (detachDisk settings vmId diskId).asked s = _ :=
    (asked_bind_ok (serve_openCompute s)).trans <| congrArg _ <|
    (asked_bind_ok (serve_openVolume s)).trans <| congrArg _ <|
    (asked_bind_ok (serve_askFor (Resources.serve_getServer hserver) "VM" vmId)).trans <|
    congrArg _ <| asked_bind_ok (serve_ask (Resources.serve_listAttachments hserver) _)
  simp only [any_volumeId, if_neg hnone] at hasked
  exact ⟨hserve, hasked⟩

end Lifecycle

/-! ## Sessions -/

namespace Session

open Operation

variable {r : Resources} {s : Session} {settings : Settings} {vmId diskId : String}

theorem avoids_attachDisk (settings : Settings) (vmId diskId : String) :
    Avoids Call.OpensOther (attachDisk settings vmId diskId) :=
  composed_attachDisk.avoids fun _ => And.right

theorem avoids_detachDisk (settings : Settings) (vmId diskId : String) :
    Avoids Call.OpensOther (detachDisk settings vmId diskId) :=
  composed_detachDisk.avoids fun _ => And.right

/-- Where a disk could be attached, the services for servers and volumes are available. -/
theorem Steady.ready_of_attachDisk (hs : s.Steady)
    (h : (s.run (attachDisk settings vmId diskId)).1 = .ok ()) : s.Ready s.cloud.resources := by
  cases hrun : (attachUnlessAttached settings vmId diskId).run.run backend s.time s with
  | mk told later s' =>
    cases told with
    | error e => cases h.symm.trans (congrArg Prod.fst (run_eq (run_bind_error hrun)))
    | ok told =>
      obtain ⟨hcompute, hvolume⟩ := services_of_run hrun
      exact ⟨rfl, hs, hcompute, hvolume⟩

theorem Ready.run_attachDisk (h : s.Ready r) {v : Volume} (hv : r.volumes.get? diskId = some v)
    (hfree : v.IsFree) (hpinned : r.pinnedStatuses.get? diskId = none)
    (hok : (s.run (attachDisk settings vmId diskId)).1 = .ok ()) :
    ∃ r', (s.run (attachDisk settings vmId diskId)).2.Ready r' ∧
      Attaching vmId diskId v r r' (s.callsOf (attachDisk settings vmId diskId)) := by
  obtain ⟨hresult, hready, hcalls⟩ := h.run (avoids_attachDisk settings vmId diskId)
  rw [hcalls]
  exact ⟨_, hready, attachDisk_attaching hv hfree hpinned (Prod.ext (hresult.symm.trans hok) rfl)⟩

/-- Detaching a disk from a server that does not have it succeeds, and only looks. -/
theorem Ready.run_detachDisk_unattached (h : s.Ready r) (hlabelled : r.Labelled)
    (hserver : r.servers.contains vmId = true)
    (hvm : ∀ a ∈ r.attachmentsOn diskId, a.serverId ≠ vmId) (settings : Settings) :
    (s.run (detachDisk settings vmId diskId)).1 = .ok () ∧
      (s.run (detachDisk settings vmId diskId)).2.Ready r ∧
      ∀ c ∈ s.callsOf (detachDisk settings vmId diskId), c.mutates = false := by
  obtain ⟨server, hserver⟩ := Option.isSome_iff_exists.1 hserver
  obtain ⟨hserve, hasked⟩ := serve_detachDisk_unattached hlabelled hserver hvm settings
  obtain ⟨hresult, hready, hcalls⟩ := h.run (avoids_detachDisk settings vmId diskId)
  rw [hserve] at hresult hready
  rw [hcalls, hasked]
  exact ⟨hresult, hready, by simp [Call.mutates]⟩

/-- Nor does it change anything to do so with many servers. -/
theorem Ready.perform_detachDisk (h : s.Ready r) (hlabelled : r.Labelled) {others : List String}
    (hothers : ∀ o ∈ others, r.servers.contains o = true ∧
      ∀ a ∈ r.attachmentsOn diskId, a.serverId ≠ o) (settings : Settings) :
    (s.perform settings (others.map fun o => (.detachDisk o diskId, default))).Ready r := by
  induction others generalizing s with
  | nil => exact h
  | cons o others ih =>
    obtain ⟨⟨hserver, hvm⟩, hothers⟩ := List.forall_mem_cons.1 hothers
    obtain ⟨-, hready, -⟩ := h.run_detachDisk_unattached hlabelled hserver hvm settings
    exact ih hready hothers

/-- Detaching a disk undoes what attaching it did, whatever else there is, and however often it
    was detached from other servers in between. Detaching it once more only looks, and attaching
    it again asks for the path that was asked for the first time. -/
theorem detachDisk_undoes_attachDisk (hs : s.Steady) (harises : s.cloud.resources.Arises)
    (settings : Settings) {v : Volume} (hv : s.cloud.resources.volumes.get? diskId = some v)
    (hfree : v.IsFree) (hpinned : s.cloud.resources.pinnedStatuses.get? diskId = none)
    (hok : (s.run (attachDisk settings vmId diskId)).1 = .ok ()) :
    let attach := attachDisk settings vmId diskId
    let detach := detachDisk settings vmId diskId
    let attached := (s.run attach).2
    ∃ path, (s.callsOf attach).filterMap Call.path? = [path] ∧
      ∀ others : List String,
        (∀ o ∈ others, o ≠ vmId ∧ s.cloud.resources.servers.contains o = true) →
        let between := attached.perform settings
          (others.map fun o => (.detachDisk o diskId, default))
        between.cloud.resources = attached.cloud.resources ∧
          (∀ o, o ≠ vmId → s.cloud.resources.servers.contains o = true →
            (between.run (detachDisk settings o diskId)).1 = .ok ()) ∧
          let detached := between.run detach
          let again := detached.2.run detach
          detached.1 = .ok () ∧ detached.2.cloud.resources = s.cloud.resources ∧
            again.1 = .ok () ∧ again.2.cloud.resources = s.cloud.resources ∧
            (∀ c ∈ detached.2.callsOf detach, c.mutates = false) ∧
            ∀ restored, restored = detached.2 ∨ restored = again.2 →
              (restored.run attach).1 = .ok () ∧
                (restored.callsOf attach).filterMap Call.path? = [path] := by
  intro attach detach attached
  have hready := hs.ready_of_attachDisk hok
  have hlabelled := harises.labelled
  generalize s.cloud.resources = r at hready hlabelled hv hpinned
  obtain ⟨r', hattached, ⟨server, hserver⟩, ⟨device, rfl⟩, path, hpath⟩ :=
    hready.run_attachDisk hv hfree hpinned hok
  have hlabelled' : (r.putVolume diskId (v.attached ⟨diskId, vmId, device⟩)).Labelled :=
    hlabelled.putVolume (List.forall_mem_singleton.2 rfl)
  have hnone : ∀ a ∈ r.attachmentsOn diskId, a.serverId ≠ vmId := by
    rw [Resources.attachmentsOn_of_some hv, hfree.1]
    exact fun _ ha => absurd ha List.not_mem_nil
  refine ⟨path, hpath, fun others hothers => ?_⟩
  intro between
  -- The disk has one attachment then, so detaching it elsewhere only looks.
  have hbetween : between.Ready _ := hattached.perform_detachDisk hlabelled' (fun o ho =>
    ⟨(hothers o ho).2, Resources.serverId_ne_of_putVolume (hothers o ho).1⟩) settings
  obtain ⟨hdetach, hdetached, -⟩ := hbetween.run (avoids_detachDisk settings vmId diskId)
  rw [serve_detachDisk_attached hserver hv hfree hpinned] at hdetach hdetached
  obtain ⟨hagain, hrestored, hlooks⟩ := hdetached.run_detachDisk_unattached hlabelled
    (Table.contains_of_some hserver) hnone settings
  refine ⟨hbetween.resources.trans hattached.resources.symm, fun o ho hexists =>
    (hbetween.run_detachDisk_unattached hlabelled' hexists
      (Resources.serverId_ne_of_putVolume ho) settings).1, ?_⟩
  intro detached again
  refine ⟨hdetach, hdetached.resources, hagain, hrestored.resources, hlooks,
    fun restored hor => ?_⟩
  have hready' : restored.Ready r := by
    rcases hor with rfl | rfl
    · exact hdetached
    · exact hrestored
  obtain ⟨hresult, hcalls⟩ := hready.run_congr hready' (avoids_attachDisk settings vmId diskId)
  exact ⟨hresult.trans hok, (congrArg _ hcalls).trans hpath⟩

/-- Two servers, of which one has a disk, and another disk that the backend will attach under a
    path of its own choice. -/
def pairedSession : Session where
  cloud := ({} : Cloud).seed fun s =>
    ((((((s.addFlavor ⟨"small", "small", 1, 1024, 10, 0, 0⟩).addServer "vm" "small").addServer
      "other" "small").addVolume "data" 5).addAttachment "data" "vm" "/dev/sdb").addVolume
      "disk" 10).reportDevice "disk" "/dev/vdx"

theorem arises_pairedSession : pairedSession.cloud.resources.Arises :=
  .other (.volume "disk" 10 (.attachment "data" "vm" "/dev/sdb" (.volume "data" 5
    (.other .empty rfl)))) rfl

/-- The next letter is asked for each time, though the disk appears elsewhere in between. -/
theorem detachDisk_undoes_attachDisk_displaced :
    let attach := attachDisk {} "vm" "disk"
    let detach := detachDisk {} "vm" "disk"
    let attached := (pairedSession.run attach).2
    let detached := ((attached.perform {} [(.detachDisk "other" "disk", default)]).run detach).2
    pairedSession.Steady ∧ (pairedSession.run attach).1 = .ok () ∧
      (attached.cloud.resources.attachmentsTo "vm").map (·.device) = ["/dev/sdb", "/dev/vdx"] ∧
      detached.cloud.resources = pairedSession.cloud.resources ∧
      (pairedSession.callsOf attach).filterMap Call.path? = ["/dev/sdc"] ∧
      (detached.callsOf attach).filterMap Call.path? = ["/dev/sdc"] := by
  intro attach detach attached detached
  have hsteady : pairedSession.Steady := ⟨rfl, rfl, rfl, rfl, rfl⟩
  have hasked : (pairedSession.callsOf attach).filterMap Call.path? = ["/dev/sdc"] := by
    decide +kernel
  have hok : (pairedSession.run attach).1 = .ok () := eq_ok_of_toOption (by decide +kernel)
  obtain ⟨path, hpath, hundone⟩ := detachDisk_undoes_attachDisk hsteady
    arises_pairedSession {} rfl ⟨rfl, rfl⟩ rfl hok
  obtain ⟨-, -, -, hresources, -, -, -, hagain⟩ := hundone ["other"] (by decide +kernel)
  obtain rfl := List.singleton_inj.1 (hpath.symm.trans hasked)
  exact ⟨hsteady, hok, by decide +kernel, hresources, hasked, (hagain _ (.inl rfl)).2⟩

end Session

end CloudProvider
