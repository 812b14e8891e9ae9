import CloudProvider.Proofs.Avoidance
import CloudProvider.Proofs.Trace
import CloudProvider.Simulated.Session

/-!
# Confirmation

An operation that changes a disk, a snapshot or the power of a server asks for the change
and then waits for it. If it succeeds, then either there was nothing to change, or the
change was made once, and the last thing that happened was that its effect was seen.

* `ChangesOnce`: one call changes resources, and no other is even tried;
* `Command.Needless`: there was nothing to change;
* `Command.Confirmed`: the change was made and seen;
* `Command.needless_or_confirmed`: there is no third way to succeed.
-/

namespace CloudProvider

open Program

/-! ## Changes -/

/-- Whether an event is a call that may have changed resources and succeeded. -/
def Program.Event.changes : Event Call Call.Answer → Bool
  | .called c ⟨_, .ok _⟩ => c.mutates
  | _ => false

variable {c : Call} {a : c.Answer} {events events' : List (Event Call Call.Answer)}

theorem Untouched.filter_changes (h : Untouched events) : events.filter Event.changes = [] := by
  refine List.filter_eq_nil_iff.2 fun event hmem => ?_
  cases event with
  | slept ms => exact Bool.false_ne_true
  | called c reply =>
    obtain ⟨took, outcome⟩ := reply
    cases outcome with
    | error e => exact Bool.false_ne_true
    | ok a => exact Bool.eq_false_iff.1 (h c _ hmem)

/-- One call changes resources, and no other such call is made. -/
structure ChangesOnce (c : Call) (a : c.Answer) (events : List (Event Call Call.Answer)) :
    Prop where
  once : ∃ took, events.filter Event.changes = [.called c ⟨took, .ok a⟩]
  only : ∀ c' reply, .called c' reply ∈ events → c'.mutates = true → c' = c

namespace ChangesOnce

theorem append_left (hu : Untouched events') (h : ChangesOnce c a events) :
    ChangesOnce c a (events' ++ events) where
  once := by
    rw [List.filter_append, hu.filter_changes, List.nil_append]
    exact h.once
  only c' reply hmem hc' := by
    rcases List.mem_append.1 hmem with hmem | hmem
    · rw [hu c' reply hmem] at hc'
      cases hc'
    · exact h.only c' reply hmem hc'

theorem append_right (hu : Untouched events') (h : ChangesOnce c a events) :
    ChangesOnce c a (events ++ events') where
  once := by
    rw [List.filter_append, hu.filter_changes, List.append_nil]
    exact h.once
  only c' reply hmem hc' := by
    rcases List.mem_append.1 hmem with hmem | hmem
    · exact h.only c' reply hmem hc'
    · rw [hu c' reply hmem] at hc'
      cases hc'

theorem singleton (hc : c.mutates = true) (took : Nat) :
    ChangesOnce c a [.called c ⟨took, .ok a⟩] where
  once := ⟨took, List.filter_cons_of_pos hc⟩
  only c' reply hmem _ := by
    cases List.mem_singleton.1 hmem
    rfl

/-- However often a call is tried, it succeeds once. -/
theorem of_tries {n : Nat} (hc : c.mutates = true) (h : Tries c n events (.ok a)) :
    ChangesOnce c a events where
  once := by
    generalize houtcome : (Except.ok a : Except CloudError c.Answer) = outcome at h
    induction h with
    | last reply _ =>
      obtain ⟨took, _⟩ := reply
      cases houtcome
      exact ⟨took, List.filter_cons_of_pos hc⟩
    | again took e ms _ _ ih => exact ih houtcome
  only _ _ hmem _ := h.eq_of_mem hmem

end ChangesOnce

namespace Lifecycle.Command

/-! ## What is claimed of a success -/

/-- Whether a command is to change something and to wait for it. -/
def awaits : Command → Bool
  | createDisk _ _ _ | deleteDisk _ | attachDisk _ _ | detachDisk _ _ | resizeDisk _ _
  | snapshotDisk _ _ | deleteSnapshot _ | rebootVm _ => true
  | _ => false

/-- The zone of a new disk is that of its server, as it was told, if there is one and it is
    to be regarded. -/
def ZonedAs (settings : Settings) (events : List (Event Call Call.Answer)) :
    Option String → Option String → Prop
  | some vmId, some zone => settings.ignoreServerZone = false ∧
    ∃ took, .called (.getServerZone vmId) ⟨took, .ok zone⟩ ∈ events
  | some _, none => settings.ignoreServerZone = true
  | none, zone => zone = none

/-- The call that makes the change a command asks for, and its answer, when the command tells
    some answer in the end. -/
def Changes (settings : Settings) (chance : Chance) (events : List (Event Call Call.Answer)) :
    (c : Command) → c.Answer → (call : Call) → call.Answer → Prop
  | createDisk sizeMib properties vmId, diskId, .createVolume request, volume =>
    request.name = "volume-" ++ chance.token ∧
      (∀ gib, request.sizeGib.toNat ≤ gib ↔ sizeMib.toNat ≤ gib * 1024) ∧
      request.volumeType = properties.volumeType.or settings.defaultVolumeType ∧
      ZonedAs settings events vmId request.zone ∧ volume.id = diskId
  | deleteDisk diskId, _, .deleteVolume id, _ => id = diskId
  | attachDisk vmId diskId, _, .attachVolume server volume _, _ =>
    server = vmId ∧ volume = diskId
  | detachDisk vmId diskId, _, .detachVolume server volume, _ => server = vmId ∧ volume = diskId
  | resizeDisk diskId sizeGib, _, .extendVolume id size, _ => id = diskId ∧ size = sizeGib
  | snapshotDisk diskId metadata, snapshotId, .createSnapshot request, snapshot =>
    ∃ took volume, .called (.getVolume diskId) ⟨took, .ok volume⟩ ∈ events ∧
      request = {
        volumeId := diskId
        force := true
        name := "snapshot-" ++ chance.token
        description := metadata.toMetadata.snapshotDescription volume.devicePaths
        metadata := metadata.toMetadata.forSnapshot } ∧
      snapshot.id = snapshotId
  | deleteSnapshot snapshotId, _, .deleteSnapshot id, _ => id = snapshotId
  | rebootVm vmId, _, .rebootServer id, _ => id = vmId
  | _, _, _, _ => False

/-- The outcome of a call that shows the change a command asks for. -/
def Confirms : (c : Command) → c.Answer → (call : Call) → Except CloudError call.Answer → Prop
  | createDisk _ _ _, diskId, .getVolume id, .ok volume =>
    id = diskId ∧ volume.status = .available
  | deleteDisk diskId, _, .getVolume id, .ok volume => id = diskId ∧ volume.status = .deleted
  | deleteDisk diskId, _, .getVolume id, .error e => id = diskId ∧ e.isNotFound = true
  | attachDisk _ diskId, _, .getVolume id, .ok volume => id = diskId ∧ volume.status = .inUse
  | detachDisk _ diskId, _, .getVolume id, .ok volume =>
    id = diskId ∧ volume.status = .available
  | resizeDisk diskId _, _, .getVolume id, .ok volume =>
    id = diskId ∧ volume.status = .available
  | snapshotDisk _ _, snapshotId, .getSnapshot id, .ok snapshot =>
    id = snapshotId ∧ snapshot.status = .available
  | deleteSnapshot snapshotId, _, .getSnapshot id, .ok snapshot =>
    id = snapshotId ∧ snapshot.status = .deleted
  | deleteSnapshot snapshotId, _, .getSnapshot id, .error e =>
    id = snapshotId ∧ e.isNotFound = true
  | rebootVm vmId, _, .getServer id, .ok server => id = vmId ∧ server.status = .active
  | _, _, _, _ => False

/-- The change was made, and the last event shows it. -/
def Confirmed (settings : Settings) (chance : Chance) (c : Command) (a : c.Answer)
    (events : List (Event Call Call.Answer)) : Prop :=
  ∃ call r before fetch reply, c.Changes settings chance events a call r ∧
    ChangesOnce call r events ∧ events = before ++ [.called fetch reply] ∧
    c.Confirms a fetch reply.outcome

/-- The outcome of a call that shows that there is nothing to change. -/
def FindsDone : Command → (call : Call) → Except CloudError call.Answer → Prop
  | deleteDisk diskId, .getVolume id, .error e => id = diskId ∧ e.isNotFound = true
  | attachDisk vmId diskId, .getVolume id, .ok volume =>
    id = diskId ∧ ∃ attachment ∈ volume.attachments, attachment.serverId = vmId
  | detachDisk vmId diskId, .listAttachments id, .ok attachments =>
    id = vmId ∧ ∀ attachment ∈ attachments, attachment.volumeId ≠ diskId
  | resizeDisk diskId sizeGib, .getVolume id, .ok volume =>
    id = diskId ∧ volume.sizeGib = sizeGib
  | deleteSnapshot snapshotId, .deleteSnapshot id, .error e =>
    id = snapshotId ∧ e.isNotFound = true
  | _, _, _ => False

/-- A call is not made. -/
def Unmade (call : Call) (events : List (Event Call Call.Answer)) : Prop :=
  ∀ reply, .called call reply ∉ events

/-- There was nothing to change, as the last call shows. It was made but once, and no call
    before it may have changed anything. -/
def Needless (c : Command) (events : List (Event Call Call.Answer)) : Prop :=
  ∃ before call reply, events = before ++ [.called call reply] ∧ Untouched before ∧
    Unmade call before ∧ c.FindsDone call reply.outcome

/-! ## Steps -/

section

variable {settings : Settings} {chance : Chance} {α : Type}

theorem untouched_of_asked {fault : CloudError → OperationError} (hc : c.mutates = false)
    (h : Runs (Operation.ofOutcome fault (perform c)).run events (.ok a)) : Untouched events := by
  obtain ⟨took, rfl⟩ := Operation.runs_asked_ok h
  exact untouched_singleton hc _

/-- A change that is waited for after it was made, and not touched otherwise. -/
theorem confirmed_of_reaches {command : Command} {answer : command.Answer}
    {before changing awaited : List (Event Call Call.Answer)} {S : Type} {target : S}
    {fetch : Call} {status : Except CloudError fetch.Answer → Except CloudError S}
    (hbefore : Untouched before) (hchanging : ChangesOnce c a changing)
    (hawaited : Wait.Reaches target fetch status awaited) (hfetch : fetch.mutates = false)
    (hchanges : command.Changes settings chance (before ++ (changing ++ awaited)) answer c a)
    (hconfirms : ∀ r, status r = .ok target → command.Confirms answer fetch r) :
    command.Confirmed settings chance answer (before ++ (changing ++ awaited)) := by
  obtain ⟨fetches, took, r, rfl, hfetches, hr⟩ := hawaited
  have huntouched : Untouched (fetches ++ [.called fetch ⟨took, r⟩]) := by
    refine Untouched.append (fun c' reply hmem => ?_) (untouched_singleton hfetch _)
    rw [hfetches c' reply hmem]
    exact hfetch
  refine ⟨c, a, before ++ (changing ++ fetches), fetch, ⟨took, r⟩, hchanges, ?_, ?_,
    hconfirms r hr⟩
  · exact (hchanging.append_right huntouched).append_left hbefore
  · simp only [List.append_assoc]

theorem Unmade.append {call : Call} (h : Unmade call events) (h' : Unmade call events') :
    Unmade call (events ++ events') :=
  fun reply hmem => (List.mem_append.1 hmem).elim (h reply) (h' reply)

theorem unmade_of_asked {fault : CloudError → OperationError} {call : Call}
    (h : Runs (Operation.ofOutcome fault (perform c)).run events (.ok a)) (hne : call ≠ c) :
    Unmade call events := by
  obtain ⟨took, rfl⟩ := Operation.runs_asked_ok h
  intro reply hmem
  cases List.mem_singleton.1 hmem
  exact hne rfl

theorem status_eq_of_volumeStatus {target : VolumeStatus} (htarget : target ≠ .deleted)
    {r : Except CloudError Volume} (h : volumeStatus target r = .ok target) :
    ∃ volume, r = .ok volume ∧ volume.status = target := by
  cases r with
  | ok volume => exact ⟨volume, rfl, Except.ok.inj h⟩
  | error e =>
    rw [volumeStatus, if_neg fun h => htarget h.1] at h
    cases h

theorem isNotFound_of_volumeStatus {e : CloudError}
    (h : volumeStatus .deleted (.error e) = .ok .deleted) : e.isNotFound = true := by
  cases he : e.isNotFound with
  | true => rfl
  | false =>
    simp only [volumeStatus, he, Bool.false_eq_true, and_false, if_false] at h
    cases h

theorem isNotFound_of_goneSnapshotStatus {e : CloudError}
    (h : goneSnapshotStatus (.error e) = .ok .deleted) : e.isNotFound = true := by
  cases he : e.isNotFound with
  | true => rfl
  | false =>
    simp only [goneSnapshotStatus, he, Bool.false_eq_true, if_false] at h
    cases h

/-- Nothing more is done about what does not exist, and every other fault ends the operation. -/
theorem runs_unlessNotFound_ok {e : CloudError} {fault : OperationError} {u : Unit}
    (h : Runs (if e.isNotFound then pure () else throw fault : Operation Unit).run events
      (.ok u)) : events = [] ∧ e.isNotFound = true := by
  split at h
  · rename_i he
    exact ⟨(Operation.runs_pure h).1, he⟩
  · cases (Operation.runs_throw h).2

theorem untouched_of_avoids {p : Operation α} {r : Except OperationError α}
    (hp : Operation.Avoids (fun c => c.mutates = true) p) (h : Runs p.run events r) :
    Untouched events :=
  fun c reply hmem => Bool.eq_false_iff.2 (Ensures.avoided hp h c reply hmem)

theorem ZonedAs.append {vmId zone : Option String} (h : ZonedAs settings events vmId zone)
    (before after : List (Event Call Call.Answer)) :
    ZonedAs settings (before ++ (events ++ after)) vmId zone := by
  cases vmId with
  | none => exact h
  | some vmId =>
    cases zone with
    | none => exact h
    | some zone =>
      obtain ⟨hignore, took, hmem⟩ := h
      exact ⟨hignore, took, List.mem_append_right _ (List.mem_append_left _ hmem)⟩

theorem zonedAs_of_zoneFor {vmId zone : Option String}
    (h : Runs (zoneFor settings vmId).run events (.ok zone)) :
    ZonedAs settings events vmId zone := by
  cases vmId with
  | none => exact Except.ok.inj (Operation.runs_pure h).2
  | some vmId =>
    simp only [zoneFor] at h
    split at h
    · rename_i hignore
      cases (Operation.runs_pure h).2
      exact hignore
    · rename_i hignore
      obtain ⟨_, _, _, rfl, -, h₁⟩ := Operation.runs_bind_ok h
      obtain ⟨_, _, zone, rfl, hasked, h₂⟩ := Operation.runs_bind_ok h₁
      obtain ⟨took, rfl⟩ := Operation.runs_asked_ok hasked
      cases (Operation.runs_pure h₂).2
      exact ⟨Bool.eq_false_iff.2 hignore, took,
        List.mem_append_right _ (List.mem_append_left _ List.mem_cons_self)⟩

theorem untouched_of_zoneFor {vmId : Option String} {r : Except OperationError (Option String)}
    (h : Runs (zoneFor settings vmId).run events r) : Untouched events := by
  have hcomposed : Composed settings (fun c => c.mutates = false) (zoneFor settings vmId).run :=
    composed_zoneFor (fun _ => rfl) (fun _ => rfl) vmId
  exact untouched_of_avoids (hcomposed.avoids fun _ => Bool.eq_false_iff.1) h

theorem reaches_of_awaitVolume {diskId : String} {target : VolumeStatus}
    (h : Runs (awaitVolume settings diskId target).run events (.ok ())) :
    Wait.Reaches target (.getVolume diskId) (volumeStatus target) events :=
  Wait.runs_awaitStatus_ok (Operation.runs_ofOutcome_ok h)

/-- A change to a disk that still exists when it is waited for. -/
theorem confirmed_of_awaitVolume {command : Command} {answer : command.Answer} {diskId : String}
    {target : VolumeStatus} (htarget : target ≠ .deleted)
    {before changing awaited : List (Event Call Call.Answer)} (hbefore : Untouched before)
    (hchanging : ChangesOnce c a changing)
    (hawaited : Runs (awaitVolume settings diskId target).run awaited (.ok ()))
    (hchanges : command.Changes settings chance (before ++ (changing ++ awaited)) answer c a)
    (hconfirms : ∀ volume : Volume, volume.status = target →
      command.Confirms answer (.getVolume diskId) (.ok volume)) :
    command.Confirmed settings chance answer (before ++ (changing ++ awaited)) := by
  refine confirmed_of_reaches hbefore hchanging (reaches_of_awaitVolume hawaited) rfl hchanges
    fun r hr => ?_
  obtain ⟨volume, rfl, hstatus⟩ := status_eq_of_volumeStatus htarget hr
  exact hconfirms volume hstatus

end

/-! ## Operations -/

section

variable {settings : Settings} {chance : Chance}

open Operation

theorem confirmed_rebootVm {vmId : String}
    (h : Runs (Lifecycle.rebootVm settings vmId).run events (.ok ())) :
    (rebootVm vmId).Confirmed settings chance () events := by
  obtain ⟨_, _, _, rfl, hopened, h₁⟩ := runs_bind_ok h
  obtain ⟨_, _, _, rfl, hread, h₂⟩ := runs_bind_ok h₁
  obtain ⟨_, _, _, rfl, hrebooted, hawaited⟩ := runs_bind_ok h₂
  rw [← List.append_assoc]
  refine confirmed_of_reaches
    ((untouched_of_asked rfl hopened).append (untouched_of_asked rfl hread))
    (.of_tries rfl (runs_askRepeatedly_ok hrebooted))
    (Wait.runs_awaitStatus_ok (runs_ofOutcome_ok hawaited)) rfl rfl ?_
  intro r hr
  cases r with
  | ok server => exact ⟨rfl, Except.ok.inj hr⟩
  | error e => cases hr

theorem needless_or_confirmed_resizeDisk {diskId : String} {sizeGib : UInt32}
    (h : Runs (Lifecycle.resizeDisk settings diskId sizeGib).run events (.ok ())) :
    (resizeDisk diskId sizeGib).Needless events ∨
      (resizeDisk diskId sizeGib).Confirmed settings chance () events := by
  obtain ⟨_, _, _, rfl, hopened, h₁⟩ := runs_bind_ok h
  obtain ⟨_, _, volume, rfl, hread, h₂⟩ := runs_bind_ok h₁
  split at h₂
  · cases (runs_throw h₂).2
  split at h₂
  · cases (runs_throw h₂).2
  split at h₂
  · rename_i hsize
    obtain ⟨rfl, -⟩ := runs_pure h₂
    obtain ⟨took, rfl⟩ := runs_asked_ok hread
    exact .inl ⟨_, .getVolume diskId, ⟨took, .ok volume⟩, rfl, untouched_of_asked rfl hopened,
      unmade_of_asked hopened nofun, rfl, hsize.symm⟩
  · obtain ⟨_, _, _, rfl, hextended, hawaited⟩ := runs_bind_ok h₂
    rw [← List.append_assoc]
    exact .inr (confirmed_of_awaitVolume (by decide)
      ((untouched_of_asked rfl hopened).append (untouched_of_asked rfl hread))
      (.of_tries rfl (runs_askRepeatedly_ok hextended)) hawaited ⟨rfl, rfl⟩
      fun _ hstatus => ⟨rfl, hstatus⟩)

theorem needless_or_confirmed_deleteDisk {diskId : String}
    (h : Runs (Lifecycle.deleteDisk settings diskId).run events (.ok ())) :
    (deleteDisk diskId).Needless events ∨
      (deleteDisk diskId).Confirmed settings chance () events := by
  obtain ⟨_, _, _, rfl, hopened, h₁⟩ := runs_bind_ok h
  obtain ⟨_, _, outcome, rfl, hread, h₂⟩ := runs_bind_ok h₁
  obtain ⟨took, _, rfl, houtcome⟩ := runs_attempt hread
  cases houtcome
  cases outcome with
  | error e =>
    obtain ⟨rfl, he⟩ := runs_unlessNotFound_ok h₂
    exact .inl ⟨_, .getVolume diskId, ⟨took, .error e⟩, rfl, untouched_of_asked rfl hopened,
      unmade_of_asked hopened nofun, rfl, he⟩
  | ok volume =>
    simp only at h₂
    split at h₂
    · cases (runs_throw h₂).2
    obtain ⟨_, _, _, rfl, hdeleted, hawaited⟩ := runs_bind_ok h₂
    obtain ⟨took', rfl⟩ := runs_asked_ok hdeleted
    rw [← List.append_assoc]
    refine .inr (confirmed_of_reaches
      ((untouched_of_asked rfl hopened).append (untouched_singleton rfl _)) (.singleton rfl took')
      (reaches_of_awaitVolume hawaited) rfl rfl fun r hr => ?_)
    cases r with
    | ok volume => exact ⟨rfl, Except.ok.inj hr⟩
    | error e => exact ⟨rfl, isNotFound_of_volumeStatus hr⟩

theorem needless_or_confirmed_detachDisk {vmId diskId : String}
    (h : Runs (Lifecycle.detachDisk settings vmId diskId).run events (.ok ())) :
    (detachDisk vmId diskId).Needless events ∨
      (detachDisk vmId diskId).Confirmed settings chance () events := by
  obtain ⟨_, _, _, rfl, hcompute, h₁⟩ := runs_bind_ok h
  obtain ⟨_, _, _, rfl, hvolume, h₂⟩ := runs_bind_ok h₁
  obtain ⟨_, _, _, rfl, hserver, h₃⟩ := runs_bind_ok h₂
  obtain ⟨_, _, attachments, rfl, hlisted, h₄⟩ := runs_bind_ok h₃
  have hopened := (untouched_of_asked rfl hcompute).append (untouched_of_asked rfl hvolume)
  split at h₄
  · obtain ⟨_, _, _, rfl, hdetached, hawaited⟩ := runs_bind_ok h₄
    rw [← List.append_assoc, ← List.append_assoc, ← List.append_assoc]
    exact .inr (confirmed_of_awaitVolume (by decide)
      ((hopened.append (untouched_of_asked rfl hserver)).append (untouched_of_asked rfl hlisted))
      (.of_tries rfl (runs_askRepeatedly_ok hdetached)) hawaited ⟨rfl, rfl⟩
      fun _ hstatus => ⟨rfl, hstatus⟩)
  · rename_i hnone
    obtain ⟨rfl, -⟩ := runs_pure h₄
    obtain ⟨took, rfl⟩ := runs_asked_ok hlisted
    have hnever : ∀ attachment ∈ attachments, attachment.volumeId ≠ diskId :=
      fun attachment ha heq => hnone (List.any_eq_true.2 ⟨attachment, ha, decide_eq_true heq⟩)
    have hunmade : Unmade (.listAttachments vmId) _ :=
      .append (.append (unmade_of_asked hcompute nofun) (unmade_of_asked hvolume nofun))
        (unmade_of_asked hserver nofun)
    rw [List.append_nil, ← List.append_assoc, ← List.append_assoc]
    exact .inl ⟨_, .listAttachments vmId, ⟨took, .ok attachments⟩, rfl,
      hopened.append (untouched_of_asked rfl hserver), hunmade, rfl, hnever⟩

theorem confirmed_snapshotDisk {diskId snapshotId : String} {metadata : CallerMetadata}
    (h : Runs (Lifecycle.snapshotDisk settings chance diskId metadata).run events
      (.ok snapshotId)) :
    (snapshotDisk diskId metadata).Confirmed settings chance snapshotId events := by
  obtain ⟨_, _, _, rfl, hopened, h₁⟩ := runs_bind_ok h
  obtain ⟨_, _, volume, rfl, hread, h₂⟩ := runs_bind_ok h₁
  obtain ⟨_, _, snapshot, rfl, hcreated, h₃⟩ := runs_bind_ok h₂
  obtain ⟨_, _, _, rfl, hawaited, h₄⟩ := runs_bind_ok h₃
  obtain ⟨rfl, heq⟩ := runs_pure h₄
  cases heq
  obtain ⟨took, rfl⟩ := runs_asked_ok hread
  obtain ⟨took', rfl⟩ := runs_asked_ok hcreated
  rw [List.append_nil, ← List.append_assoc]
  refine confirmed_of_reaches ((untouched_of_asked rfl hopened).append (untouched_singleton rfl _))
    (.singleton rfl took') (Wait.runs_awaitStatus_ok (runs_ofOutcome_ok hawaited)) rfl ?_ ?_
  · exact ⟨took, volume, List.mem_append_left _ (List.mem_append_right _ List.mem_cons_self), rfl,
      rfl⟩
  · intro r hr
    cases r with
    | ok snapshot => exact ⟨rfl, Except.ok.inj hr⟩
    | error e => cases hr

theorem needless_or_confirmed_deleteSnapshot {snapshotId : String}
    (h : Runs (Lifecycle.deleteSnapshot settings snapshotId).run events (.ok ())) :
    (deleteSnapshot snapshotId).Needless events ∨
      (deleteSnapshot snapshotId).Confirmed settings chance () events := by
  obtain ⟨_, _, _, rfl, hopened, h₁⟩ := runs_bind_ok h
  obtain ⟨_, _, outcome, rfl, hdeleted, h₂⟩ := runs_bind_ok h₁
  obtain ⟨took, _, rfl, houtcome⟩ := runs_attempt hdeleted
  cases houtcome
  cases outcome with
  | error e =>
    obtain ⟨rfl, he⟩ := runs_unlessNotFound_ok h₂
    exact .inl ⟨_, .deleteSnapshot snapshotId, ⟨took, .error e⟩, rfl,
      untouched_of_asked rfl hopened, unmade_of_asked hopened nofun, rfl, he⟩
  | ok _ =>
    refine .inr (confirmed_of_reaches (untouched_of_asked rfl hopened) (.singleton rfl took)
      (Wait.runs_awaitStatus_ok (runs_ofOutcome_ok h₂)) rfl rfl fun r hr => ?_)
    cases r with
    | ok snapshot => exact ⟨rfl, Except.ok.inj hr⟩
    | error e => exact ⟨rfl, isNotFound_of_goneSnapshotStatus hr⟩

theorem confirmed_createDisk {sizeMib : UInt32} {properties : DiskProperties}
    {vmId : Option String} {diskId : String}
    (h : Runs (Lifecycle.createDisk settings chance sizeMib properties vmId).run events
      (.ok diskId)) :
    (createDisk sizeMib properties vmId).Confirmed settings chance diskId events := by
  unfold Lifecycle.createDisk at h
  split at h
  · cases (runs_throw h).2
  obtain ⟨_, _, _, rfl, hopened, h₁⟩ := runs_bind_ok h
  obtain ⟨_, _, zone, rfl, hzone, h₂⟩ := runs_bind_ok h₁
  obtain ⟨_, _, volume, rfl, hcreated, h₃⟩ := runs_bind_ok h₂
  obtain ⟨_, _, _, rfl, hawaited, h₄⟩ := runs_bind_ok h₃
  obtain ⟨rfl, heq⟩ := runs_pure h₄
  cases heq
  obtain ⟨took, rfl⟩ := runs_asked_ok hcreated
  rw [List.append_nil, ← List.append_assoc]
  refine confirmed_of_awaitVolume (by decide)
    ((untouched_of_asked rfl hopened).append (untouched_of_zoneFor hzone)) (.singleton rfl took)
    hawaited ?_ fun _ hstatus => ⟨rfl, hstatus⟩
  rw [List.append_assoc]
  exact ⟨rfl, fun gib => gibFor_le_iff, rfl, (zonedAs_of_zoneFor hzone).append _ _, rfl⟩

theorem needless_or_confirmed_attachDisk {vmId diskId : String}
    (h : Runs (Lifecycle.attachDisk settings vmId diskId).run events (.ok ())) :
    (attachDisk vmId diskId).Needless events ∨
      (attachDisk vmId diskId).Confirmed settings chance () events := by
  obtain ⟨_, _, device?, rfl, hattached, h'⟩ := runs_bind_ok h
  obtain ⟨rfl, -⟩ := runs_pure h'
  rw [List.append_nil]
  obtain ⟨_, _, _, rfl, hcompute, h₁⟩ := runs_bind_ok hattached
  obtain ⟨_, _, _, rfl, hvolume, h₂⟩ := runs_bind_ok h₁
  obtain ⟨_, _, volume, rfl, hread, h₃⟩ := runs_bind_ok h₂
  have hopened := (untouched_of_asked rfl hcompute).append (untouched_of_asked rfl hvolume)
  split at h₃
  · cases (runs_throw h₃).2
  · rename_i existing _ hexisting
    obtain ⟨rfl, -⟩ := runs_pure h₃
    obtain ⟨took, rfl⟩ := runs_asked_ok hread
    rw [Volume.attachmentTo?] at hexisting
    have hserver : existing.serverId = vmId := by simpa using List.find?_some hexisting
    rw [List.append_nil, ← List.append_assoc]
    exact .inl ⟨_, .getVolume diskId, ⟨took, .ok volume⟩, rfl, hopened,
      .append (unmade_of_asked hcompute nofun) (unmade_of_asked hvolume nofun), rfl, existing,
      List.mem_of_find?_eq_some hexisting, hserver⟩
  split at h₃
  · cases (runs_throw h₃).2
  obtain ⟨_, _, _, rfl, hfree, h₄⟩ := runs_bind_ok h₃
  obtain ⟨rfl, -⟩ := runs_pure h₄
  obtain ⟨_, _, device, rfl, hdevice, h₅⟩ := runs_bind_ok hfree
  obtain ⟨_, _, _, rfl, hattached, hawaited⟩ := runs_bind_ok h₅
  have hlooked : Untouched _ :=
    untouched_of_avoids (avoids_nextDevicePath nofun (fun _ => nofun) nofun) hdevice
  rw [List.append_nil, ← List.append_assoc, ← List.append_assoc, ← List.append_assoc]
  exact .inr (confirmed_of_awaitVolume (by decide)
    ((hopened.append (untouched_of_asked rfl hread)).append hlooked)
    (.of_tries rfl (runs_askRepeatedly_ok hattached)) hawaited ⟨rfl, rfl⟩
    fun _ hstatus => ⟨rfl, hstatus⟩)

end

/-- If an operation that awaits its change succeeds, there was nothing to change, or the
    change was made and seen. -/
theorem needless_or_confirmed (settings : Settings) (chance : Chance) {command : Command}
    (hawaits : command.awaits = true) {answer : command.Answer}
    (h : Runs (command.operation settings chance).run events (.ok answer)) :
    command.Needless events ∨ command.Confirmed settings chance answer events := by
  cases command with
  | createDisk sizeMib properties vmId => exact .inr (confirmed_createDisk h)
  | deleteDisk diskId => exact needless_or_confirmed_deleteDisk h
  | attachDisk vmId diskId => exact needless_or_confirmed_attachDisk h
  | detachDisk vmId diskId => exact needless_or_confirmed_detachDisk h
  | resizeDisk diskId sizeGib => exact needless_or_confirmed_resizeDisk h
  | snapshotDisk diskId metadata => exact .inr (confirmed_snapshotDisk h)
  | deleteSnapshot snapshotId => exact needless_or_confirmed_deleteSnapshot h
  | rebootVm vmId => exact .inr (confirmed_rebootVm h)
  | _ => cases hawaits

/-- A disk that is slow to grow: it is refused once, and takes a while when it is not. -/
def slowDisk : Session where
  cloud := (({} : Cloud).seed (·.addVolume "disk" 10)).failTimes "extend_volume_size" 1
  volumeStatuses := .ofList [("disk", [.available, .extending, .available])]

/-- The disk is seen to have grown. -/
theorem needless_or_confirmed_slowDisk :
    let command := resizeDisk "disk" 20
    let o := (command.operation {} default).run.run Session.backend 0 slowDisk
    let events := (command.operation {} default).run.events Session.backend 0 slowDisk
    command.awaits = true ∧ o.result = .ok () ∧
      (command.Needless events ∨ command.Confirmed {} default () events) ∧
      o.state.log.map (·.call.operation) =
        ["get_volume", "extend_volume_size", "extend_volume_size", "get_volume", "get_volume"] := by
  intro command o events
  have hok : o.result.isOk = true := by decide +kernel
  have hruns : Runs _ events o.result := runs_events Session.backend _ 0 slowDisk
  cases hresult : o.result with
  | error e =>
    rw [hresult] at hok
    cases hok
  | ok _ =>
    rw [hresult] at hruns
    exact ⟨rfl, rfl, needless_or_confirmed {} default rfl hruns, by decide +kernel⟩

end Lifecycle.Command

end CloudProvider
