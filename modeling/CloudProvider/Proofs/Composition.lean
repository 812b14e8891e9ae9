import CloudProvider.Lifecycle.Command
import CloudProvider.Proofs.Provision

/-!
# How operations are composed

Every operation is put together from steps of a few forms: a call that is made once, a call
that is tried under the retry policy for its kind, and a wait for a status. So what holds of
these forms, and of one program after another, holds of every operation, by induction on how
it is composed.

* `Call.policy?`: the policy that a call is retried under;
* `Composed`: programs that are put together from such steps;
* `Command.Makes`: the calls that an operation may make;
* `Command.composed`: it is composed of these.
-/

namespace CloudProvider

open Program

/-- The policy under which a call is retried, if it is one of those that are. -/
def Call.policy? : Call → Option String
  | createPort _ _ => some "create_port"
  | createMember _ _ _ _ _ => some "create_pool_member"
  | deleteMember _ _ _ => some "delete_pool_member"
  | attachVolume _ _ _ => some "attach_volume"
  | detachVolume _ _ => some "detach_volume"
  | extendVolume _ _ => some "extend_volume"
  | rebootServer _ => some "reboot_server"
  | _ => none

/-- Programs put together from calls that are made once, calls that are tried under their
    policy, and waits. -/
inductive Composed (settings : Settings) (made : Call → Prop) : {α : Type} → Action α → Prop
  | done {α : Type} (a : α) : Composed settings made (.done a)
  | bind {α β : Type} {p : Action α} {f : α → Action β} : Composed settings made p →
    (∀ a, Composed settings made (f a)) → Composed settings made (p.bind f)
  | once {c : Call} : made c → c.policy? = none → Composed settings made (.perform c)
  | retried {c : Call} {policy : String} : made c → c.policy? = some policy →
    Composed settings made (settings.retryPolicies.run policy c)
  | awaited {S : Type} [DecidableEq S] {c : Call} {resource : String} {text : S → String}
    {target : S} {status : Except CloudError c.Answer → Except CloudError S} :
    made c → c.policy? = none →
      Composed settings made (settings.wait.awaitStatus resource text target c status)

theorem Composed.mono {settings : Settings} {made made' : Call → Prop} {α : Type} {p : Action α}
    (h : Composed settings made p) (hmade : ∀ c, made c → made' c) :
    Composed settings made' p := by
  induction h with
  | done a => exact .done a
  | bind _ _ ihp ihf => exact .bind ihp ihf
  | once hc hpolicy => exact .once (hmade _ hc) hpolicy
  | retried hc hpolicy => exact .retried (hmade _ hc) hpolicy
  | awaited hc hpolicy => exact .awaited (hmade _ hc) hpolicy

/-- Whether a call opens a service that neither disks nor servers need. -/
def Call.OpensOther : Call → Prop
  | openService service => service ≠ .compute ∧ service ≠ .volume
  | _ => False

/-! ## Forms of steps -/

namespace Operation

variable {α β : Type} {settings : Settings} {made : Call → Prop} {c : Call}

theorem composed_bind {p : Operation α} {f : α → Operation β} (hp : Composed settings made p.run)
    (hf : ∀ a, Composed settings made (f a).run) : Composed settings made (p >>= f).run := by
  refine .bind hp fun r => ?_
  cases r with
  | ok a => exact hf a
  | error e => exact .done _

theorem composed_pure (a : α) : Composed settings made (pure a : Operation α).run := .done _

theorem composed_throw (e : OperationError) :
    Composed settings made (throw e : Operation α).run := .done _

theorem composed_ofAction {p : Action α} (hp : Composed settings made p) :
    Composed settings made (ofAction p).run := .bind hp fun _ => .done _

theorem composed_ofOutcome {p : Action (Except CloudError α)} {fault : CloudError → OperationError}
    (hp : Composed settings made p) : Composed settings made (ofOutcome fault p).run :=
  .bind hp fun _ => .done _

theorem composed_attempt (hc : made c) (hpolicy : c.policy? = none) :
    Composed settings made (attempt c).run := composed_ofAction (.once hc hpolicy)

theorem composed_ask (hc : made c) (hpolicy : c.policy? = none) {context : String} :
    Composed settings made (ask c context).run := composed_ofOutcome (.once hc hpolicy)

theorem composed_askFor (hc : made c) (hpolicy : c.policy? = none) {kind id : String} :
    Composed settings made (askFor c kind id).run := composed_ofOutcome (.once hc hpolicy)

theorem composed_askRepeatedly {policy : String} (hc : made c) (hpolicy : c.policy? = some policy)
    {context : String} : Composed settings made (askRepeatedly settings policy c context).run :=
  composed_ofOutcome (.retried hc hpolicy)

theorem composed_attemptRepeatedly {policy : String} (hc : made c)
    (hpolicy : c.policy? = some policy) :
    Composed settings made (attemptRepeatedly settings policy c).run :=
  composed_ofAction (.retried hc hpolicy)

theorem composed_openService {service : Service} {title : String}
    (hc : made (.openService service)) : Composed settings made (openService service title).run :=
  composed_ask hc rfl

/-- What absence is answered with, and every other fault ends. -/
theorem composed_unlessNotFound {e : CloudError} {p : Operation α} {fault : OperationError}
    (hp : Composed settings made p.run) :
    Composed settings made (if e.isNotFound then p else throw fault : Operation α).run := by
  split
  · exact hp
  · exact composed_throw _

end Operation

namespace Lifecycle

open Operation

namespace Provision

variable {α β : Type} {settings : Settings} {made : Call → Prop}

theorem composed_bind {p : Provision α} {f : α → Provision β}
    (hp : ∀ t, Composed settings made (p.run.run t))
    (hf : ∀ a t, Composed settings made ((f a).run.run t)) (t : Trail) :
    Composed settings made ((p >>= f).run.run t) := by
  refine .bind (hp t) fun ⟨r, t⟩ => ?_
  cases r with
  | ok a => exact hf a t
  | error e => exact .done _

theorem composed_ofOperation {p : Operation α} (hp : Composed settings made p.run) (t : Trail) :
    Composed settings made ((ofOperation p).run.run t) := .bind hp fun _ => .done _

end Provision

/-! ## The calls of every operation -/

namespace Command

/-- The calls that a command may make. -/
def Makes : Command → Call → Prop
  | createVm _, c =>
    match c with
    | .openService _ | .getImage _ | .resolveNetworks _ _ | .createPort _ _ | .createServer _
    | .configureVip _ _ | .getPool _ | .getSubnet _ | .createMember _ _ _ _ _
    | .updateMetadata _ _ | .deletePorts _ | .deleteServer _ => True
    | _ => False
  | deleteVm vmId, c =>
    match c with
    | .openService _ | .deleteMember _ _ _ | .deletePorts _ => True
    | .getPorts id | .getMetadata id | .deleteServer id => id = vmId
    | _ => False
  | hasVm vmId, c =>
    match c with
    | .openService _ => True
    | .getServer id => id = vmId
    | _ => False
  | setVmMetadata vmId metadata, c =>
    match c with
    | .openService _ => True
    | .getServer id | .renameServer id _ => id = vmId
    | .updateMetadata id texts => id = vmId ∧ texts = metadata.toMetadata
    | _ => False
  | rebootVm vmId, c =>
    match c with
    | .openService _ => True
    | .getServer id | .rebootServer id => id = vmId
    | _ => False
  | calculateVmProperties _, c =>
    match c with
    | .openService _ | .matchFlavor _ _ => True
    | _ => False
  | createDisk _ _ _, c =>
    match c with
    | .openService _ | .getServerZone _ | .createVolume _ | .getVolume _ => True
    | _ => False
  | deleteDisk diskId, c =>
    match c with
    | .openService _ => True
    | .getVolume id | .deleteVolume id => id = diskId
    | _ => False
  | hasDisk diskId, c =>
    match c with
    | .openService _ => True
    | .getVolume id => id = diskId
    | _ => False
  | setDiskMetadata diskId _, c =>
    match c with
    | .openService _ => True
    | .setVolumeMetadata id _ => id = diskId
    | _ => False
  | getDisks vmId, c =>
    match c with
    | .openService _ => True
    | .listAttachments id => id = vmId
    | _ => False
  | attachDisk vmId diskId, c | attachDiskWithHint vmId diskId, c =>
    match c with
    | .openService _ | .getFlavor _ => True
    | .getServer id | .listAttachments id => id = vmId
    | .getVolume id => id = diskId
    | .attachVolume server volume _ => server = vmId ∧ volume = diskId
    | _ => False
  | detachDisk vmId diskId, c =>
    match c with
    | .openService _ => True
    | .getServer id | .listAttachments id => id = vmId
    | .getVolume id => id = diskId
    | .detachVolume server volume => server = vmId ∧ volume = diskId
    | _ => False
  | resizeDisk diskId sizeGib, c =>
    match c with
    | .openService _ => True
    | .getVolume id => id = diskId
    | .extendVolume id size => id = diskId ∧ size = sizeGib
    | _ => False
  | snapshotDisk diskId _, c =>
    match c with
    | .openService _ | .getSnapshot _ => True
    | .getVolume id => id = diskId
    | .createSnapshot r => r.volumeId = diskId
    | _ => False
  | deleteSnapshot snapshotId, c =>
    match c with
    | .openService _ => True
    | .getSnapshot id | .deleteSnapshot id => id = snapshotId
    | _ => False

end Command

variable {settings : Settings} {chance : Chance}

theorem composed_awaitVolume {made : Call → Prop} {volumeId : String}
    (hc : made (.getVolume volumeId)) (target : VolumeStatus) :
    Composed settings made (awaitVolume settings volumeId target).run :=
  composed_ofOutcome (.awaited hc rfl)

/-! ### Servers -/

theorem composed_createPorts {request : VmRequest} {groups : List String} (networks : List Network)
    (config : NetworkConfig) (t : Trail) :
    Composed settings (Command.createVm request).Makes
      ((createPorts settings groups networks config).run.run t) := by
  induction networks generalizing config t with
  | nil => exact .done _
  | cons network networks ih =>
    refine Provision.composed_bind (Provision.composed_ofOperation
      (composed_askRepeatedly (c := .createPort network groups) trivial rfl)) (fun port t => ?_) t
    exact Provision.composed_bind (fun _ => .done _) (fun _ t => ih _ t) t

theorem composed_joinPools {request : VmRequest} {network : Network} {ip : String}
    (bindings : List PoolBinding) :
    Composed settings (Command.createVm request).Makes
      (joinPools settings network ip bindings).run := by
  induction bindings with
  | nil => exact composed_pure _
  | cons binding bindings ih =>
    refine composed_bind (composed_ask (c := .getPool _) trivial rfl) fun pool => ?_
    refine composed_bind (composed_ask (c := .getSubnet _) trivial rfl) fun subnetId => ?_
    refine composed_bind (composed_askRepeatedly (c := .createMember _ _ _ _ _) trivial rfl)
      fun member => ?_
    exact composed_bind ih fun _ => composed_pure _

theorem composed_registerMembers {request : VmRequest} (config : NetworkConfig)
    (properties : VmProperties) :
    Composed settings (Command.createVm request).Makes
      (registerMembers settings config properties).run := by
  unfold registerMembers
  split
  · exact composed_pure _
  · split
    · exact composed_joinPools _
    · exact composed_throw _

theorem composed_configureFloating {request : VmRequest} (serverId : String)
    (config : NetworkConfig) :
    Composed settings (Command.createVm request).Makes (configureFloating serverId config).run := by
  unfold configureFloating
  split
  · exact composed_ask (c := .configureVip _ _) trivial rfl
  · exact composed_pure _

theorem composed_tagMemberships {request : VmRequest} (serverId : String)
    (memberships : List Membership) :
    Composed settings (Command.createVm request).Makes
      (tagMemberships serverId memberships).run := by
  unfold tagMemberships
  split
  · exact composed_pure _
  · exact composed_ask (c := .updateMetadata _ _) trivial rfl

theorem composed_provision {request : VmRequest} (imageId : String) (config : NetworkConfig)
    (t : Trail) :
    Composed settings (Command.createVm request).Makes
      ((provision settings chance request imageId config).run.run t) := by
  refine Provision.composed_bind (composed_createPorts _ _) (fun config t => ?_) t
  refine Provision.composed_bind (Provision.composed_ofOperation
    (composed_ask (c := .createServer _) trivial rfl)) (fun server t => ?_) t
  refine Provision.composed_bind (fun _ => .done _) (fun _ t => ?_) t
  refine Provision.composed_bind (Provision.composed_ofOperation
    (composed_configureFloating _ _)) (fun _ t => ?_) t
  refine Provision.composed_bind (Provision.composed_ofOperation
    (composed_registerMembers _ _)) (fun memberships t => ?_) t
  refine Provision.composed_bind (Provision.composed_ofOperation
    (composed_tagMemberships _ _)) (fun _ t => .done _) t

theorem composed_unwind {request : VmRequest} (trail : Trail) :
    Composed settings (Command.createVm request).Makes (unwind trail).run := by
  have hserver : Composed settings (Command.createVm request).Makes
      (unwind { trail with ports := [] }).run := by
    obtain ⟨ports, serverId⟩ := trail
    cases serverId with
    | none => exact composed_pure _
    | some id =>
      exact composed_bind (composed_attempt (c := .deleteServer id) trivial rfl) fun _ =>
        composed_pure _
  obtain ⟨ports, serverId⟩ := trail
  cases ports with
  | nil => exact hserver
  | cons port ports =>
    exact composed_bind (composed_attempt (c := .deletePorts _) trivial rfl) fun _ => hserver

theorem composed_createVm {request : VmRequest} :
    Composed settings (Command.createVm request).Makes
      (createVm settings chance request).run := by
  refine composed_bind (composed_openService trivial) fun _ => ?_
  refine composed_bind (composed_openService trivial) fun _ => ?_
  refine composed_bind (composed_openService trivial) fun _ => ?_
  refine composed_bind (composed_openService trivial) fun _ => ?_
  refine composed_bind (composed_ask (c := .getImage _) trivial rfl) fun imageId => ?_
  refine composed_bind (composed_ask (c := .resolveNetworks _ _) trivial rfl) fun config => ?_
  refine composed_bind (composed_ofAction (composed_provision _ _ _)) fun ⟨r, trail⟩ => ?_
  cases r with
  | ok vm => exact composed_pure _
  | error e => exact composed_bind (composed_unwind trail) fun _ => composed_throw _

theorem composed_leavePools {vmId : String} (memberships : List (String × Membership)) :
    Composed settings (Command.deleteVm vmId).Makes
      (leavePools settings vmId memberships).run := by
  induction memberships with
  | nil => exact composed_pure _
  | cons m rest ih =>
    refine composed_bind (composed_attemptRepeatedly (c := .deleteMember _ _ _) trivial rfl)
      fun r => ?_
    cases r with
    | ok a => exact ih
    | error e => exact composed_unlessNotFound ih

theorem composed_portsOf {vmId : String} :
    Composed settings (Command.deleteVm vmId).Makes (portsOf vmId).run := by
  refine composed_bind (composed_attempt (c := .getPorts _) (.refl _) rfl) fun r => ?_
  cases r with
  | ok ports => exact composed_pure _
  | error e => exact composed_pure _

theorem composed_metadataOf {vmId : String} :
    Composed settings (Command.deleteVm vmId).Makes (metadataOf vmId).run := by
  refine composed_bind (composed_attempt (c := .getMetadata _) (.refl _) rfl) fun r => ?_
  cases r with
  | ok metadata => exact composed_pure _
  | error e => exact composed_unlessNotFound (composed_pure _)

theorem composed_deleteServer {vmId : String} :
    Composed settings (Command.deleteVm vmId).Makes (deleteServer vmId).run := by
  refine composed_bind (composed_attempt (c := .deleteServer _) (.refl _) rfl) fun r => ?_
  cases r with
  | ok a => exact composed_pure _
  | error e => exact composed_unlessNotFound (composed_pure _)

theorem composed_deletePorts {vmId : String} (ports : List Port) :
    Composed settings (Command.deleteVm vmId).Makes (deletePorts vmId ports).run := by
  unfold deletePorts
  split
  · exact composed_pure _
  · exact composed_ask (c := .deletePorts _) trivial rfl

theorem composed_deleteVm {vmId : String} :
    Composed settings (Command.deleteVm vmId).Makes (deleteVm settings vmId).run := by
  refine composed_bind (composed_openService trivial) fun _ => ?_
  refine composed_bind (composed_openService trivial) fun _ => ?_
  refine composed_bind (composed_openService trivial) fun _ => ?_
  refine composed_bind composed_portsOf fun ports => ?_
  refine composed_bind composed_metadataOf fun metadata => ?_
  refine composed_bind (.done _) fun memberships => ?_
  refine composed_bind (composed_leavePools _) fun _ => ?_
  exact composed_bind composed_deleteServer fun _ => composed_deletePorts _

theorem composed_hasVm {vmId : String} :
    Composed settings (Command.hasVm vmId).Makes (hasVm vmId).run := by
  refine composed_bind (composed_openService trivial) fun _ => ?_
  refine composed_bind (composed_attempt (c := .getServer _) (.refl _) rfl) fun r => ?_
  cases r with
  | ok server => exact composed_pure _
  | error e => exact composed_unlessNotFound (composed_pure _)

theorem composed_storeMetadata {vmId : String} {metadata : CallerMetadata} :
    Composed settings (Command.setVmMetadata vmId metadata).Makes
      (storeMetadata vmId metadata.toMetadata).run := by
  unfold storeMetadata
  split
  · exact composed_pure _
  · exact composed_ask (c := .updateMetadata _ _) ⟨rfl, rfl⟩ rfl

theorem composed_renameAfter {vmId : String} {metadata : CallerMetadata} (texts : Metadata) :
    Composed settings (Command.setVmMetadata vmId metadata).Makes
      (renameAfter settings vmId texts).run := by
  unfold renameAfter
  split
  · split
    · exact composed_ask (c := .renameServer _ _) (.refl _) rfl
    · exact composed_pure _
  · exact composed_pure _

theorem composed_setVmMetadata {vmId : String} {metadata : CallerMetadata} :
    Composed settings (Command.setVmMetadata vmId metadata).Makes
      (setVmMetadata settings vmId metadata).run := by
  refine composed_bind (composed_openService trivial) fun _ => ?_
  refine composed_bind (composed_askFor (c := .getServer _) (.refl _) rfl) fun _ => ?_
  exact composed_bind composed_storeMetadata fun _ => composed_renameAfter _

theorem composed_rebootVm {vmId : String} :
    Composed settings (Command.rebootVm vmId).Makes (rebootVm settings vmId).run := by
  refine composed_bind (composed_openService trivial) fun _ => ?_
  refine composed_bind (composed_askFor (c := .getServer _) (.refl _) rfl) fun _ => ?_
  refine composed_bind (composed_askRepeatedly (c := .rebootServer _) (.refl _) rfl) fun _ => ?_
  exact composed_ofOutcome (.awaited (c := .getServer _) (.refl _) rfl)

theorem composed_calculateVmProperties {resources : VmResources} :
    Composed settings (Command.calculateVmProperties resources).Makes
      (calculateVmProperties settings resources).run := by
  refine composed_bind (composed_openService trivial) fun _ => ?_
  exact composed_bind (composed_ask (c := .matchFlavor _ _) trivial rfl) fun _ => composed_pure _

/-! ### Disks and snapshots -/

theorem composed_zoneFor {made : Call → Prop} (hopen : ∀ service, made (.openService service))
    (hzone : ∀ id, made (.getServerZone id)) (vmId : Option String) :
    Composed settings made (zoneFor settings vmId).run := by
  cases vmId with
  | none => exact composed_pure _
  | some vmId =>
    simp only [zoneFor]
    split
    · exact composed_pure _
    · refine composed_bind (composed_openService (hopen _)) fun _ => ?_
      exact composed_bind (composed_ask (hzone vmId) rfl) fun _ => composed_pure _

theorem composed_createDisk {sizeMib : UInt32} {properties : DiskProperties}
    {vmId : Option String} :
    Composed settings (Command.createDisk sizeMib properties vmId).Makes
      (createDisk settings chance sizeMib properties vmId).run := by
  unfold createDisk
  split
  · exact composed_throw _
  · refine composed_bind (composed_openService trivial) fun _ => ?_
    refine composed_bind (composed_zoneFor (fun _ => trivial) (fun _ => trivial) _) fun _ => ?_
    refine composed_bind (composed_ask (c := .createVolume _) trivial rfl) fun volume => ?_
    exact composed_bind (composed_awaitVolume trivial _) fun _ => composed_pure _

theorem composed_deleteDisk {diskId : String} :
    Composed settings (Command.deleteDisk diskId).Makes (deleteDisk settings diskId).run := by
  refine composed_bind (composed_openService trivial) fun _ => ?_
  refine composed_bind (composed_attempt (c := .getVolume _) (.refl _) rfl) fun r => ?_
  cases r with
  | error e => exact composed_unlessNotFound (composed_pure _)
  | ok volume =>
    simp only
    split
    · exact composed_throw _
    · refine composed_bind (composed_ask (c := .deleteVolume _) (.refl _) rfl) fun _ => ?_
      exact composed_awaitVolume (.refl _) _

theorem composed_hasDisk {diskId : String} :
    Composed settings (Command.hasDisk diskId).Makes (hasDisk diskId).run := by
  refine composed_bind (composed_openService trivial) fun _ => ?_
  refine composed_bind (composed_attempt (c := .getVolume _) (.refl _) rfl) fun r => ?_
  cases r with
  | ok volume => exact composed_pure _
  | error e => exact composed_unlessNotFound (composed_pure _)

theorem composed_setDiskMetadata {diskId : String} {metadata : CallerMetadata} :
    Composed settings (Command.setDiskMetadata diskId metadata).Makes
      (setDiskMetadata diskId metadata).run := by
  refine composed_bind (composed_openService trivial) fun _ => ?_
  exact composed_askFor (c := .setVolumeMetadata _ _) (.refl _) rfl

theorem composed_getDisks {vmId : String} :
    Composed settings (Command.getDisks vmId).Makes (getDisks vmId).run := by
  refine composed_bind (composed_openService trivial) fun _ => ?_
  exact composed_bind (composed_askFor (c := .listAttachments _) (.refl _) rfl) fun _ =>
    composed_pure _

theorem composed_nextDevicePath {made : Call → Prop} {vmId : String}
    (hserver : made (.getServer vmId)) (hflavor : ∀ id, made (.getFlavor id))
    (hlist : made (.listAttachments vmId)) :
    Composed settings made (nextDevicePath settings vmId).run := by
  refine composed_bind (composed_askFor hserver rfl) fun server => ?_
  refine composed_bind (composed_ask (hflavor _) rfl) fun _ => ?_
  refine composed_bind (composed_ask hlist rfl) fun _ => ?_
  split
  · exact composed_pure _
  · exact composed_throw _

/-- Only the services for servers and for volumes are opened. -/
theorem composed_attachUnlessAttached {vmId diskId : String} :
    Composed settings (fun c => (Command.attachDisk vmId diskId).Makes c ∧ ¬ c.OpensOther)
      (attachUnlessAttached settings vmId diskId).run := by
  refine composed_bind (composed_openService ⟨trivial, fun h => h.1 rfl⟩) fun _ => ?_
  refine composed_bind (composed_openService ⟨trivial, fun h => h.2 rfl⟩) fun _ => ?_
  refine composed_bind (composed_askFor (c := .getVolume _) ⟨.refl _, id⟩ rfl) fun volume => ?_
  split
  · exact composed_throw _
  · exact composed_pure _
  · split
    · exact composed_throw _
    · refine composed_bind (composed_bind
        (composed_nextDevicePath ⟨.refl _, id⟩ (fun _ => ⟨trivial, id⟩) ⟨.refl _, id⟩)
        fun device => ?_) fun _ => composed_pure _
      refine composed_bind
        (composed_askRepeatedly (c := .attachVolume _ _ _) ⟨⟨rfl, rfl⟩, id⟩ rfl) fun _ => ?_
      exact composed_awaitVolume ⟨.refl _, id⟩ _

theorem composed_attachDisk {vmId diskId : String} :
    Composed settings (fun c => (Command.attachDisk vmId diskId).Makes c ∧ ¬ c.OpensOther)
      (attachDisk settings vmId diskId).run :=
  composed_bind composed_attachUnlessAttached fun _ => composed_pure _

theorem composed_attachDiskWithHint {vmId diskId : String} :
    Composed settings (Command.attachDiskWithHint vmId diskId).Makes
      (attachDiskWithHint settings vmId diskId).run := by
  refine composed_bind (composed_attachUnlessAttached.mono fun _ => And.left) fun device => ?_
  cases device with
  | some device => exact composed_pure _
  | none =>
    refine composed_bind (composed_openService trivial) fun _ => ?_
    refine composed_bind (composed_askFor (c := .getVolume _) (.refl _) rfl) fun volume => ?_
    split
    · exact composed_pure _
    · exact composed_throw _

theorem composed_detachDisk {vmId diskId : String} :
    Composed settings (fun c => (Command.detachDisk vmId diskId).Makes c ∧ ¬ c.OpensOther)
      (detachDisk settings vmId diskId).run := by
  refine composed_bind (composed_openService ⟨trivial, fun h => h.1 rfl⟩) fun _ => ?_
  refine composed_bind (composed_openService ⟨trivial, fun h => h.2 rfl⟩) fun _ => ?_
  refine composed_bind (composed_askFor (c := .getServer _) ⟨.refl _, id⟩ rfl) fun _ => ?_
  refine composed_bind (composed_ask (c := .listAttachments _) ⟨.refl _, id⟩ rfl)
    fun attachments => ?_
  split
  · refine composed_bind
      (composed_askRepeatedly (c := .detachVolume _ _) ⟨⟨rfl, rfl⟩, id⟩ rfl) fun _ => ?_
    exact composed_awaitVolume ⟨.refl _, id⟩ _
  · exact composed_pure _

theorem composed_resizeDisk {diskId : String} {sizeGib : UInt32} :
    Composed settings (Command.resizeDisk diskId sizeGib).Makes
      (resizeDisk settings diskId sizeGib).run := by
  refine composed_bind (composed_openService trivial) fun _ => ?_
  refine composed_bind (composed_askFor (c := .getVolume _) (.refl _) rfl) fun volume => ?_
  split
  · exact composed_throw _
  · split
    · exact composed_throw _
    · split
      · exact composed_pure _
      · refine composed_bind (composed_askRepeatedly (c := .extendVolume _ _) ⟨rfl, rfl⟩ rfl)
          fun _ => ?_
        exact composed_awaitVolume (.refl _) _

theorem composed_snapshotDisk {diskId : String} {metadata : CallerMetadata} :
    Composed settings (Command.snapshotDisk diskId metadata).Makes
      (snapshotDisk settings chance diskId metadata).run := by
  refine composed_bind (composed_openService trivial) fun _ => ?_
  refine composed_bind (composed_askFor (c := .getVolume _) (.refl _) rfl) fun volume => ?_
  refine composed_bind (composed_ask (c := .createSnapshot _) (.refl _) rfl) fun snapshot => ?_
  refine composed_bind ?_ fun _ => composed_pure _
  exact composed_ofOutcome (.awaited (c := .getSnapshot _) trivial rfl)

theorem composed_deleteSnapshot {snapshotId : String} :
    Composed settings (Command.deleteSnapshot snapshotId).Makes
      (deleteSnapshot settings snapshotId).run := by
  refine composed_bind (composed_openService trivial) fun _ => ?_
  refine composed_bind (composed_attempt (c := .deleteSnapshot _) (.refl _) rfl) fun r => ?_
  cases r with
  | error e => exact composed_unlessNotFound (composed_pure _)
  | ok a => exact composed_ofOutcome (.awaited (c := .getSnapshot _) (.refl _) rfl)

/-! ### Commands -/

/-- Every operation is composed of the calls that it may make. -/
theorem Command.composed (settings : Settings) (chance : Chance) (c : Command) :
    Composed settings c.Makes (c.operation settings chance).run := by
  cases c with
  | createVm request => exact composed_createVm
  | deleteVm vmId => exact composed_deleteVm
  | hasVm vmId => exact composed_hasVm
  | setVmMetadata vmId metadata => exact composed_setVmMetadata
  | rebootVm vmId => exact composed_rebootVm
  | calculateVmProperties resources => exact composed_calculateVmProperties
  | createDisk sizeMib properties vmId => exact composed_createDisk
  | deleteDisk diskId => exact composed_deleteDisk
  | hasDisk diskId => exact composed_hasDisk
  | setDiskMetadata diskId metadata => exact composed_setDiskMetadata
  | getDisks vmId => exact composed_getDisks
  | attachDisk vmId diskId => exact composed_attachDisk.mono fun _ => And.left
  | attachDiskWithHint vmId diskId => exact composed_attachDiskWithHint
  | detachDisk vmId diskId => exact composed_detachDisk.mono fun _ => And.left
  | resizeDisk diskId sizeGib => exact composed_resizeDisk
  | snapshotDisk diskId metadata => exact composed_snapshotDisk
  | deleteSnapshot snapshotId => exact composed_deleteSnapshot

end Lifecycle

end CloudProvider
