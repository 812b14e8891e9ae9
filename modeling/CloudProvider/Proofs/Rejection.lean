import CloudProvider.Proofs.Compensation
import CloudProvider.Proofs.Confirmation
import CloudProvider.Proofs.NoTrace
import CloudProvider.Proofs.Teardown

/-!
# Requests that are rejected

A request that makes no sense is rejected, and a rejection is to mean that nothing was done
about it: every call made until then only looks something up. This holds of all operations
but one. A server that is to join pools without having an address is noticed only when it has
been created.

* `Operation.Accepts`: no run ends with a rejection;
* `Operation.RejectsFirst`: no run that ends with one has touched anything;
* `Command.rejects_first`: operations reject before they touch anything, but for that one;
* `createVm_rejects_late`: that one has created a server by then.
-/

namespace CloudProvider

open Program

/-- Where no call is out of order, what holds of all results is ensured. -/
theorem Program.ensures_of_forall {C : Type} {A : C → Type} {α : Type} {Q : α → Prop}
    (h : ∀ a, Q a) (p : Program C A α) :
    p.Ensures (avoiding fun _ => False) (fun a _ => Q a) () := by
  induction p with
  | done a => exact h a
  | call c next ih => exact ⟨id, fun reply _ _ => ih reply⟩
  | sleep ms next ih => exact ih

theorem Program.Ensures.of_avoiding {C : Type} {A : C → Type} {α : Type} {avoid : C → Prop}
    {Q : α → Unit → Prop} {p : Program C A α} {events : List (Event C A)} {a : α}
    (h : p.Ensures (avoiding avoid) Q ()) (hr : Runs p events a) : Q a () := by
  induction hr with
  | done a => exact h
  | call c next reply events a _ ih => exact ih (h.2 reply () trivial)
  | sleep ms next events a _ ih => exact ih h

namespace Operation

variable {α β : Type} {p : Operation α} {f : α → Operation β} {settings : Settings} {c : Call}

/-! ## Operations that do not reject -/

/-- Whether a fault is the rejection of a request. -/
def IsRejection (e : OperationError) : Prop := ∃ reason, e = .validation reason

/-- No run ends with the rejection of the request, whatever is replied. -/
def Accepts (p : Operation α) : Prop :=
  p.run.Ensures (avoiding fun _ => False) (fun r _ => ∀ e, r = .error e → ¬ IsRejection e) ()

theorem not_isRejection_cloud (context : String) (cause : CloudError) :
    ¬ IsRejection (.cloud context cause) := nofun

theorem accepts_bind (hp : Accepts p) (hf : ∀ a, Accepts (f a)) : Accepts (p >>= f) := by
  refine ensures_bind.2 (hp.mono fun r _ hr => ?_)
  cases r with
  | ok a => exact hf a
  | error e =>
    intro e' he'
    cases he'
    exact hr e rfl

theorem accepts_pure (a : α) : Accepts (pure a : Operation α) := nofun

theorem accepts_throw {e : OperationError} (h : ¬ IsRejection e) :
    Accepts (throw e : Operation α) := by
  intro e' he'
  cases he'
  exact h

theorem accepts_ofAction (q : Action α) : Accepts (ofAction q) :=
  ensures_ofAction.2 (ensures_of_forall (fun _ => nofun) q)

theorem accepts_ofOutcome {fault : CloudError → OperationError}
    (h : ∀ e, ¬ IsRejection (fault e)) (q : Action (Except CloudError α)) :
    Accepts (ofOutcome fault q) := by
  refine ensures_ofOutcome.2 (ensures_of_forall (fun r => ?_) q)
  cases r with
  | ok a => exact nofun
  | error e => exact accepts_throw (α := α) (h e)

theorem accepts_attempt : Accepts (attempt c) := accepts_ofAction _

theorem accepts_attemptRepeatedly {policy : String} :
    Accepts (attemptRepeatedly settings policy c) := accepts_ofAction _

theorem accepts_inContext {context : String} (q : Action (Except CloudError α)) :
    Accepts (ofOutcome (CloudError.inContext context) q) :=
  accepts_ofOutcome (not_isRejection_cloud context) q

theorem accepts_ask {context : String} : Accepts (ask c context) := accepts_inContext _

theorem accepts_askRepeatedly {policy context : String} :
    Accepts (askRepeatedly settings policy c context) := accepts_inContext _

theorem accepts_askFor {kind id : String} : Accepts (askFor c kind id) := by
  refine accepts_ofOutcome (fun e => ?_) _
  unfold CloudError.orNotFound
  split <;> exact nofun

/-- What absence is answered with, and every other fault ends. -/
theorem accepts_unlessNotFound {e : CloudError} {context : String} (hp : Accepts p) :
    Accepts (if e.isNotFound then p else throw (.cloud context e) : Operation α) := by
  split
  · exact hp
  · exact accepts_throw nofun

/-! ## Operations that reject first -/

/-- A run that ends with the rejection of the request has not touched anything. -/
def RejectsFirst (p : Operation α) : Prop :=
  ∀ events reason, Runs p.run events (.error (.validation reason)) → Untouched events

theorem Accepts.not_runs {events : List (Event Call Call.Answer)} {reason : String}
    (h : Accepts p) : ¬ Runs p.run events (.error (.validation reason)) :=
  fun hr => h.of_avoiding hr _ rfl ⟨reason, rfl⟩

theorem untouched_nil : Untouched [] := fun _ _ hmem => absurd hmem List.not_mem_nil

theorem Accepts.rejectsFirst (h : Accepts p) : RejectsFirst p :=
  fun _ _ hr => absurd hr h.not_runs

theorem rejectsFirst_throw (e : OperationError) : RejectsFirst (throw e : Operation α) := by
  intro events reason hr
  obtain ⟨rfl, -⟩ := runs_throw hr
  exact untouched_nil

/-- What touches nothing in any run, and then an operation that rejects first. -/
theorem rejectsFirst_bind (hp : ∀ events r, Runs p.run events r → Untouched events)
    (hf : ∀ a, RejectsFirst (f a)) : RejectsFirst (p >>= f) := by
  intro events reason hr
  obtain ⟨e, -, hp'⟩ | ⟨before, after, a, rfl, hp', hf'⟩ := runs_bind hr
  · exact hp events _ hp'
  · exact (hp before _ hp').append (hf a after reason hf')

theorem untouched_of_ask (hc : c.mutates = false) {context : String}
    {events : List (Event Call Call.Answer)} {r : Except OperationError c.Answer}
    (h : Runs (ask c context).run events r) : Untouched events := by
  obtain ⟨took, outcome, rfl, -⟩ := runs_ask h
  exact untouched_singleton hc _

theorem untouched_of_askFor (hc : c.mutates = false) {kind id : String}
    {events : List (Event Call Call.Answer)} {r : Except OperationError c.Answer}
    (h : Runs (askFor c kind id).run events r) : Untouched events := by
  obtain ⟨outcome, -, hperform⟩ := runs_ofOutcome h
  obtain ⟨took, rfl⟩ := runs_perform hperform
  exact untouched_singleton hc _

end Operation

namespace Lifecycle

open Operation

variable {settings : Settings} {chance : Chance} {vmId diskId : String}

/-! ## Disks and snapshots -/

theorem accepts_awaitVolume (target : VolumeStatus) :
    Accepts (awaitVolume settings diskId target) := accepts_inContext _

theorem accepts_zoneFor (vmId : Option String) : Accepts (zoneFor settings vmId) := by
  cases vmId with
  | none => exact accepts_pure _
  | some vmId =>
    simp only [zoneFor]
    split
    · exact accepts_pure _
    · exact accepts_bind accepts_ask fun _ => accepts_bind accepts_ask fun _ => accepts_pure _

theorem rejectsFirst_createDisk {sizeMib : UInt32} {properties : DiskProperties}
    {vmId : Option String} :
    RejectsFirst (createDisk settings chance sizeMib properties vmId) := by
  unfold createDisk
  split
  · exact rejectsFirst_throw _
  · refine Accepts.rejectsFirst ?_
    refine accepts_bind accepts_ask fun _ => ?_
    refine accepts_bind (accepts_zoneFor vmId) fun zone => ?_
    refine accepts_bind accepts_ask fun volume => ?_
    exact accepts_bind (accepts_awaitVolume _) fun _ => accepts_pure _

theorem accepts_deleteDisk : Accepts (deleteDisk settings diskId) := by
  refine accepts_bind accepts_ask fun _ => accepts_bind accepts_attempt fun r => ?_
  cases r with
  | error e => exact accepts_unlessNotFound (accepts_pure _)
  | ok volume =>
    dsimp only
    split
    · exact accepts_throw nofun
    · exact accepts_bind accepts_ask fun _ => accepts_awaitVolume _

theorem accepts_hasDisk : Accepts (hasDisk diskId) := by
  refine accepts_bind accepts_ask fun _ => accepts_bind accepts_attempt fun r => ?_
  cases r with
  | ok volume => exact accepts_pure _
  | error e => exact accepts_unlessNotFound (accepts_pure _)

theorem accepts_setDiskMetadata {metadata : CallerMetadata} :
    Accepts (setDiskMetadata diskId metadata) :=
  accepts_bind accepts_ask fun _ => accepts_askFor

theorem accepts_getDisks : Accepts (getDisks vmId) :=
  accepts_bind accepts_ask fun _ => accepts_bind accepts_askFor fun _ => accepts_pure _

theorem accepts_nextDevicePath : Accepts (nextDevicePath settings vmId) := by
  refine accepts_bind accepts_askFor fun server => accepts_bind accepts_ask fun flavor => ?_
  refine accepts_bind accepts_ask fun attachments => ?_
  split
  · exact accepts_pure _
  · exact accepts_throw nofun

theorem accepts_attachUnlessAttached : Accepts (attachUnlessAttached settings vmId diskId) := by
  refine accepts_bind accepts_ask fun _ => accepts_bind accepts_ask fun _ => ?_
  refine accepts_bind accepts_askFor fun volume => ?_
  split
  · exact accepts_throw nofun
  · exact accepts_pure _
  · split
    · exact accepts_throw nofun
    · refine accepts_bind ?_ fun _ => accepts_pure _
      refine accepts_bind accepts_nextDevicePath fun device => ?_
      exact accepts_bind accepts_askRepeatedly fun _ => accepts_awaitVolume _

theorem accepts_attachDisk : Accepts (attachDisk settings vmId diskId) :=
  accepts_bind accepts_attachUnlessAttached fun _ => accepts_pure _

theorem accepts_attachDiskWithHint : Accepts (attachDiskWithHint settings vmId diskId) := by
  refine accepts_bind accepts_attachUnlessAttached fun device => ?_
  cases device with
  | some device => exact accepts_pure _
  | none =>
    refine accepts_bind accepts_ask fun _ => accepts_bind accepts_askFor fun volume => ?_
    split
    · exact accepts_pure _
    · exact accepts_throw nofun

theorem accepts_detachDisk : Accepts (detachDisk settings vmId diskId) := by
  refine accepts_bind accepts_ask fun _ => accepts_bind accepts_ask fun _ => ?_
  refine accepts_bind accepts_askFor fun _ => accepts_bind accepts_ask fun attachments => ?_
  split
  · exact accepts_bind accepts_askRepeatedly fun _ => accepts_awaitVolume _
  · exact accepts_pure _

theorem rejectsFirst_resizeDisk {sizeGib : UInt32} :
    RejectsFirst (resizeDisk settings diskId sizeGib) := by
  refine rejectsFirst_bind (fun _ _ => untouched_of_ask rfl) fun _ => ?_
  refine rejectsFirst_bind (fun _ _ => untouched_of_askFor rfl) fun volume => ?_
  split
  · exact rejectsFirst_throw _
  · split
    · exact rejectsFirst_throw _
    · split
      · exact (accepts_pure _).rejectsFirst
      · exact (accepts_bind accepts_askRepeatedly fun _ => accepts_awaitVolume _).rejectsFirst

theorem accepts_snapshotDisk {metadata : CallerMetadata} :
    Accepts (snapshotDisk settings chance diskId metadata) := by
  refine accepts_bind accepts_ask fun _ => accepts_bind accepts_askFor fun volume => ?_
  refine accepts_bind accepts_ask fun snapshot => ?_
  exact accepts_bind (accepts_inContext _) fun _ => accepts_pure _

theorem accepts_deleteSnapshot {snapshotId : String} :
    Accepts (deleteSnapshot settings snapshotId) := by
  refine accepts_bind accepts_ask fun _ => accepts_bind accepts_attempt fun r => ?_
  cases r with
  | error e => exact accepts_unlessNotFound (accepts_pure _)
  | ok a => exact accepts_inContext _

/-! ## Servers -/

theorem accepts_leavePools (memberships : List (String × Membership)) :
    Accepts (leavePools settings vmId memberships) := by
  induction memberships with
  | nil => exact accepts_pure _
  | cons m rest ih =>
    refine accepts_bind accepts_attemptRepeatedly fun r => ?_
    cases r with
    | ok a => exact ih
    | error e => exact accepts_unlessNotFound ih

theorem accepts_deleteServer : Accepts (deleteServer vmId) := by
  refine accepts_bind accepts_attempt fun r => ?_
  cases r with
  | ok a => exact accepts_pure _
  | error e => exact accepts_unlessNotFound (accepts_pure _)

theorem accepts_deletePorts {ports : List Port} : Accepts (deletePorts vmId ports) := by
  unfold deletePorts
  split
  · exact accepts_pure _
  · exact accepts_ask

/-- The tags of a server are read before anything is deleted. -/
theorem rejectsFirst_deleteVm : RejectsFirst (deleteVm settings vmId) := by
  refine rejectsFirst_bind (fun _ _ => untouched_of_ask rfl) fun _ => ?_
  refine rejectsFirst_bind (fun _ _ => untouched_of_ask rfl) fun _ => ?_
  refine rejectsFirst_bind (fun _ _ => untouched_of_ask rfl) fun _ => ?_
  refine rejectsFirst_bind (fun events r h => ?_) fun ports => ?_
  · obtain ⟨took, listed, rfl, -⟩ := runs_portsOf h
    exact untouched_singleton rfl _
  refine rejectsFirst_bind (fun events r h => ?_) fun metadata => ?_
  · obtain ⟨took, read, rfl, -⟩ := runs_metadataOf h
    exact untouched_singleton rfl _
  refine rejectsFirst_bind (fun events r h => ?_) fun memberships => ?_
  · cases h
    exact untouched_nil
  refine (accepts_bind (accepts_leavePools memberships) fun _ => ?_).rejectsFirst
  exact accepts_bind accepts_deleteServer fun _ => accepts_deletePorts

theorem accepts_hasVm : Accepts (hasVm vmId) := by
  refine accepts_bind accepts_ask fun _ => accepts_bind accepts_attempt fun r => ?_
  cases r with
  | ok server => exact accepts_pure _
  | error e => exact accepts_unlessNotFound (accepts_pure _)

theorem accepts_setVmMetadata {metadata : CallerMetadata} :
    Accepts (setVmMetadata settings vmId metadata) := by
  refine accepts_bind accepts_ask fun _ => accepts_bind accepts_askFor fun _ => ?_
  refine accepts_bind ?_ fun _ => ?_
  · unfold storeMetadata
    split
    · exact accepts_pure _
    · exact accepts_ask
  · unfold renameAfter
    split
    · split
      · exact accepts_ask
      · exact accepts_pure _
    · exact accepts_pure _

theorem accepts_rebootVm : Accepts (rebootVm settings vmId) :=
  accepts_bind accepts_ask fun _ => accepts_bind accepts_askFor fun _ =>
    accepts_bind accepts_askRepeatedly fun _ => accepts_inContext _

theorem accepts_calculateVmProperties {resources : VmResources} :
    Accepts (calculateVmProperties settings resources) :=
  accepts_bind accepts_ask fun _ => accepts_bind accepts_ask fun _ => accepts_pure _

/-! ### Creation -/

/-- What a request lacks that is rejected late: a server is to join pools, and the default
    network that it was resolved to has no address. -/
def LacksAddress (request : VmRequest) (events : List (Event Call Call.Answer))
    (e : OperationError) : Prop :=
  request.properties.pools ≠ [] ∧ ∃ config ∈ resolutions events,
    config.defaultNetwork.ip = none ∧ e = noAddress config.defaultNetwork.name

theorem lacksAddress_of_runs {request : VmRequest} {events : List (Event Call Call.Answer)}
    {reason : String}
    (h : Runs (createVm settings chance request).run events (.error (.validation reason))) :
    LacksAddress request events (.validation reason) := by
  have hcompensated := (ensures_compensated settings chance request).of_runs h
  obtain ⟨before, after, hevents, -, -, -, hfailed⟩ := hcompensated
  generalize he : OperationError.validation reason = e at hfailed
  cases hfailed with
  | call => cases he
  | @noAddress _ config _ hpools _ hmem hip =>
    refine ⟨hpools, config, ?_, hip, rfl⟩
    rw [show events = before ++ after from hevents, resolutions_append]
    exact List.mem_append_left _ hmem

/-! ## Rejections -/

namespace Command

/-- An operation that rejects the request has touched nothing, unless it was to create a
    server that joins pools and has no address. -/
theorem rejects_first (settings : Settings) (chance : Chance) (c : Command)
    {events : List (Event Call Call.Answer)} {reason : String}
    (h : Runs (c.operation settings chance).run events (.error (.validation reason))) :
    Untouched events ∨
      ∃ request, c = .createVm request ∧ LacksAddress request events (.validation reason) := by
  cases c with
  | createVm request => exact .inr ⟨request, rfl, lacksAddress_of_runs h⟩
  | deleteVm vmId => exact .inl (rejectsFirst_deleteVm events reason h)
  | createDisk sizeMib properties vmId => exact .inl (rejectsFirst_createDisk events reason h)
  | resizeDisk diskId sizeGib => exact .inl (rejectsFirst_resizeDisk events reason h)
  | hasVm vmId => exact absurd h accepts_hasVm.not_runs
  | setVmMetadata vmId metadata => exact absurd h accepts_setVmMetadata.not_runs
  | rebootVm vmId => exact absurd h accepts_rebootVm.not_runs
  | calculateVmProperties resources => exact absurd h accepts_calculateVmProperties.not_runs
  | deleteDisk diskId => exact absurd h accepts_deleteDisk.not_runs
  | hasDisk diskId => exact absurd h accepts_hasDisk.not_runs
  | setDiskMetadata diskId metadata => exact absurd h accepts_setDiskMetadata.not_runs
  | getDisks vmId => exact absurd h accepts_getDisks.not_runs
  | attachDisk vmId diskId => exact absurd h accepts_attachDisk.not_runs
  | attachDiskWithHint vmId diskId => exact absurd h accepts_attachDiskWithHint.not_runs
  | detachDisk vmId diskId => exact absurd h accepts_detachDisk.not_runs
  | snapshotDisk diskId metadata => exact absurd h accepts_snapshotDisk.not_runs
  | deleteSnapshot snapshotId => exact absurd h accepts_deleteSnapshot.not_runs

/-- A disk that is to shrink. -/
theorem rejects_first_shrinking :
    let p := ((resizeDisk "disk" 5).operation {} default).run
    ∃ reason, (p.run Session.backend 0 slowDisk).result = .error (.validation reason) ∧
      Untouched (p.events Session.backend 0 slowDisk) := by
  intro p
  have hresult : (p.run Session.backend 0 slowDisk).result = .error (.validation
      "Cannot resize volume 'disk' to a smaller size from 10 GiB to 5 GiB") := rfl
  have hruns := runs_events Session.backend p 0 slowDisk
  rw [hresult] at hruns
  obtain huntouched | ⟨request, hc, -⟩ := rejects_first {} default (resizeDisk "disk" 5) hruns
  · exact ⟨_, hresult, huntouched⟩
  · cases hc

end Command

/-! ### A rejection that comes late -/

theorem mutates_of_mem_calls {events : List (Event Call Call.Answer)} {c : Call}
    (h : Untouched events) (hc : c ∈ calls events) : c.mutates = false := by
  obtain ⟨event, hmem, hcall⟩ := List.mem_filterMap.1 hc
  cases event with
  | called c' reply =>
    cases hcall
    exact h c reply hmem
  | slept ms => cases hcall

/-- A request for a server that joins a pool and whose only network gives it no address. -/
def addresslessRequest : VmRequest :=
  { pooledRequest with networks := .ofList [("private", { kind := .dynamic })] }

/-- The server is created and deleted before the request is rejected. -/
theorem createVm_rejects_late :
    let p := (createVm {} default addresslessRequest).run
    let events := p.events Session.backend 0 { cloud := busyCloud }
    (∃ reason, (p.run Session.backend 0 { cloud := busyCloud }).result =
      .error (.validation reason)) ∧ ¬ Untouched events ∧
      (calls events).map (·.operation) =
        ["compute", "network", "load_balancer", "image", "get_image",
          "get_network_configuration", "create_server", "delete_server"] := by
  intro p events
  refine ⟨⟨"Network 'private' has no IP to register in load balancer pools", rfl⟩, ?_, ?_⟩
  · intro h
    have hany : (calls events).any Call.mutates = true := by decide +kernel
    obtain ⟨c, hmem, hc⟩ := List.any_eq_true.1 hany
    rw [mutates_of_mem_calls h hmem] at hc
    cases hc
  · decide +kernel

end Lifecycle

end CloudProvider
