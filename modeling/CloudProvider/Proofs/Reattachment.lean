import CloudProvider.Proofs.FreeLetters
import CloudProvider.Proofs.Lifetime
import CloudProvider.Proofs.Success

/-!
# Attaching a disk again

There are two ways to attach a disk to a server, of which one tells the path that the disk
got. They are the same operation: whatever the backend holds and reports, they leave the same
resources and fail alike, and the path that is told is the one the backend stores. Once the
disk is attached, attaching it again, either way, is a single look at the volume.

* `Session.Steady`: a session in which nothing is scripted and no failure is injected;
* `Resources.AttachedAs`: the disk is attached to the server, and to no other;
* `attachUnlessAttached_attaches`: so it is after every success;
* `Session.Attached.run_attachUnlessAttached`: and then nothing is done but to look;
* `Session.attachDisk_idempotent`: the two ways to attach a disk are one, and idempotent.
-/

namespace CloudProvider

open Program Lifecycle

/-- The commands that attach a disk to a server. -/
def Lifecycle.Command.Attaches (vmId diskId : String) (c : Command) : Prop :=
  c = .attachDisk vmId diskId ∨ c = .attachDiskWithHint vmId diskId

/-! ## What an attachment leaves -/

/-- A disk is attached to a server, and to no other, and the first attachment is as a device. -/
def Resources.AttachedAs (s : Resources) (vmId diskId device : String) : Prop :=
  ∃ v a, s.volumes.get? diskId = some v ∧ v.attachmentElsewhere? vmId = none ∧
    v.attachmentTo? vmId = some a ∧ a.device = device

namespace Lifecycle

open Operation Resources

variable {s : Resources} {settings : Settings} {vmId diskId : String}

/-- What only makes idle calls changes nothing. -/
theorem ensures_of_idle {α : Type} {p : Operation α} (hp : Avoids (fun c => c.isIdle = false) p) :
    p.run.Ensures faltering (IfOk fun _ s' => s' = s) s := by
  refine (hp.ensures (I := (· = s)) ?_ (fun _ _ h => h) rfl).mono fun r s' h => ?_
  · rintro c _ rfl hc
    refine ⟨trivial, fun reply s' hl => ?_⟩
    rcases hl with ⟨a, -, hs⟩ | ⟨-, rfl⟩
    · exact eq_of_isIdle (by simpa using hc) hs
    · rfl
  · cases r with
    | ok a => exact h
    | error e => trivial

theorem attachVolume_attaches {device : String} {a : Attachment} {s' : Resources}
    (hfree : ∀ v, s.volumes.get? diskId = some v → v.attachments = [])
    (hs : s.attachVolume vmId diskId device = .ok (a, s')) :
    s'.AttachedAs vmId diskId a.device := by
  obtain ⟨_, -, hs⟩ := find_bind_ok hs
  obtain ⟨v, hv, hs⟩ := find_bind_ok hs
  cases hs
  refine ⟨_, _, Table.get?_insert_self _ _ _, ?_, ?_, rfl⟩
  · simp [Volume.attachmentElsewhere?, hfree v hv]
  · simp [Volume.attachmentTo?, hfree v hv]

theorem attachFree_attaches (hfree : ∀ v, s.volumes.get? diskId = some v → v.attachments = []) :
    (attachFree settings vmId diskId).run.Ensures faltering
      (IfOk fun _ s' => ∃ device, s'.AttachedAs vmId diskId device) s := by
  have hpath : Avoids (fun c => c.isIdle = false) (nextDevicePath settings vmId) :=
    avoids_nextDevicePath nofun nofun nofun
  refine ensures_bind_ok (ensures_of_idle hpath) ?_
  rintro device s rfl
  have hattach (a : Attachment) (s' : Resources)
      (hs : Resources.answer (.attachVolume vmId diskId device) s = .ok (a, s')) :
      ∃ device, s'.AttachedAs vmId diskId device :=
    ⟨a.device, attachVolume_attaches hfree hs⟩
  refine ensures_bind_ok (ensures_askRepeatedly_ok hattach settings _ _) ?_
  intro a s' hattached
  have hawait : Avoids (fun c => c.isIdle = false) (awaitVolume settings diskId .inUse) :=
    avoids_awaitVolume nofun _ _
  refine (ensures_of_idle hawait).mono fun r s'' h => ?_
  cases r with
  | ok _ => exact (h : s'' = s') ▸ hattached
  | error e => trivial

/-- The path of an attachment that stood already is told, and it is the first one stored. -/
theorem attachUnlessAttached_attaches (settings : Settings) (vmId diskId : String)
    (s : Resources) :
    (attachUnlessAttached settings vmId diskId).run.Ensures faltering
      (IfOk fun told s' => ∃ device, s'.AttachedAs vmId diskId device ∧
        (told = none ∨ told = some device)) s := by
  have hcompute : Avoids (fun c => c.isIdle = false) openCompute := avoids_ask nofun _
  have hvolume : Avoids (fun c => c.isIdle = false) openVolume := avoids_ask nofun _
  refine ensures_bind_ok (ensures_of_idle hcompute) ?_
  rintro _ s rfl
  refine ensures_bind_ok (ensures_of_idle hvolume) ?_
  rintro _ s rfl
  -- A pinned status may hide that the volume is free, but not what it is attached to.
  refine ensures_bind_ok (R := fun v s' => s' = s ∧
    ∃ stored status, s.volumes.get? diskId = some stored ∧ v = { stored with status }) ?_ ?_
  · refine ensures_askFor.2 ⟨trivial, ?_⟩
    rintro ⟨took, _⟩ s' (⟨v, rfl, hs⟩ | ⟨⟨e, rfl⟩, -⟩)
    · exact getVolume_ok hs
    · trivial
  · rintro _ s ⟨rfl, stored, status, hstored, rfl⟩
    dsimp only
    split
    · trivial
    · rename_i existing hother hsame
      exact ⟨_, ⟨stored, existing, hstored, hother, hsame, rfl⟩, .inr rfl⟩
    · rename_i hother hsame
      have hfree (v : Volume) (hv : s.volumes.get? diskId = some v) : v.attachments = [] := by
        obtain rfl := Option.some.inj (hstored.symm.trans hv)
        exact attachments_eq_nil (v := { stored with status }) hother hsame
      split
      · trivial
      · refine ensures_bind_ok (attachFree_attaches hfree) ?_
        rintro _ s' ⟨device, hattached⟩
        exact ⟨device, hattached, .inl rfl⟩

end Lifecycle

/-! ## Steady sessions -/

theorem Cloud.openService_congr {s s' : Cloud} (h : s'.unavailable = s.unavailable)
    (service : Service) : s'.openService service = s.openService service := by
  rw [openService, h]
  rfl

namespace Session

variable {s s' : Session} {c : Call}

/-- A call in a steady session. -/
theorem Steady.leads (h : s.Steady) {now : Nat} {reply : Reply c.Answer}
    (hl : backend c now s = (reply, s')) :
    Resources.faltering.leads c s.cloud.resources reply s'.cloud.resources ∧ s'.Steady ∧
      s'.cloud.unavailable = s.cloud.unavailable := by
  by_cases hopen : ∀ service, c = .openService service → s.cloud.openService service = .ok ()
  · obtain ⟨s₁, hs₁, hresources, hsteady, hunavailable⟩ := backend_of_steady h hopen now
    obtain ⟨rfl, rfl⟩ := Prod.mk.inj (hs₁.symm.trans hl)
    refine ⟨?_, hsteady, hunavailable⟩
    rw [hresources]
    cases hserve : s.cloud.resources.serve c with
    | mk r r' =>
      cases r with
      | ok a => exact .inl ⟨a, rfl, Resources.answer_of_serve_ok hserve⟩
      | error e => exact .inr ⟨⟨e, rfl⟩, Resources.eq_of_serve_error hserve⟩
  · push Not at hopen
    obtain ⟨service, rfl, hrefused⟩ := hopen
    obtain ⟨rfl, rfl⟩ := Prod.mk.inj hl
    cases hservice : s.cloud.openService service with
    | ok a => exact absurd hservice hrefused
    | error e => exact ⟨.inr ⟨⟨e, rfl⟩, rfl⟩, h, rfl⟩

/-- What holds where any call may fail holds in a steady session. -/
theorem Steady.ensures_of_faltering {α : Type} {p : Action α} {Q : α → Resources → Prop}
    (hs : s.Steady) (h : p.Ensures Resources.faltering Q s.cloud.resources) :
    p.Ensures (Backend.world backend) (fun a s' => Q a s'.cloud.resources ∧ s'.Steady ∧
      s'.cloud.unavailable = s.cloud.unavailable) s := by
  have htransfer := h.transfer (V := Backend.world backend) (t := s)
    (R := fun r s' => r = s'.cloud.resources ∧ s'.Steady ∧
      s'.cloud.unavailable = s.cloud.unavailable) ?_ (fun _ _ _ hrel => hrel) ⟨rfl, hs, rfl⟩
  · exact htransfer.mono fun a s' ⟨_, ⟨heq, hkept⟩, hQ⟩ => ⟨heq ▸ hQ, hkept⟩
  · rintro c _ s₁ ⟨rfl, hs₁, hunavailable₁⟩ -
    refine ⟨trivial, fun reply s₂ ⟨now, hl⟩ => ?_⟩
    obtain ⟨hleads, hs₂, hunavailable₂⟩ := hs₁.leads hl
    exact ⟨_, hleads, rfl, hs₂, hunavailable₂.trans hunavailable₁⟩

/-! ## Attached disks -/

/-- A session after a call that was answered at once and changed nothing. -/
def noted (c : Call) (now : Nat) (s : Session) : Session :=
  { s with cloud := s.cloud.record c, log := s.log ++ [⟨now, c, none⟩] }

/-- A steady session in which a disk is attached to a server as a device, and the services that
    attach disks are available. -/
structure Attached (vmId diskId device : String) (s : Session) : Prop where
  steady : s.Steady
  compute : s.cloud.openService .compute = .ok ()
  volume : s.cloud.openService .volume = .ok ()
  attached : s.cloud.resources.AttachedAs vmId diskId device

open Operation

variable {α β : Type} {settings : Settings} {vmId diskId device : String}

theorem Attached.noted (h : s.Attached vmId diskId device) (now : Nat) :
    (s.noted c now).Attached vmId diskId device :=
  ⟨{ h.steady with }, h.compute, h.volume, h.attached⟩

theorem run_bind_ok {p : Operation α} {f : α → Operation β} {now later : Nat} {a : α}
    (h : p.run.run backend now s = ⟨.ok a, later, s'⟩) :
    (p >>= f).run.run backend now s = (f a).run.run backend later s' := by
  refine (Program.run_bind backend p.run _ now s).trans ?_
  rw [h]
  rfl

theorem run_bind_error {p : Operation α} {f : α → Operation β} {now later : Nat}
    {e : OperationError} (h : p.run.run backend now s = ⟨.error e, later, s'⟩) :
    (p >>= f).run.run backend now s = ⟨.error e, later, s'⟩ := by
  refine (Program.run_bind backend p.run _ now s).trans ?_
  rw [h]
  rfl

theorem run_openService {service : Service} {r : Except CloudError Unit}
    (h : s.cloud.openService service = r) (title : String) (now : Nat) :
    (openService service title).run.run backend now s =
      ⟨r.mapError (CloudError.inContext ("Failed to create " ++ title ++ " service")), now, s⟩ := by
  rw [← h]
  rfl

/-- Whatever status the volume reports, it reports its attachments. -/
theorem Attached.run_getVolume (h : s.Attached vmId diskId device) (now : Nat) :
    ∃ v a, (askFor (.getVolume diskId) "disk" diskId).run.run backend now s =
        ⟨.ok v, now, s.noted (.getVolume diskId) now⟩ ∧
      v.attachmentElsewhere? vmId = none ∧ v.attachmentTo? vmId = some a ∧ a.device = device := by
  obtain ⟨stored, a, hstored, hother, hsame, hdevice⟩ := h.attached
  let v : Volume :=
    { stored with status := (s.cloud.resources.pinnedStatuses.get? diskId).getD stored.status }
  have hread : s.cloud.resources.getVolume diskId = .ok (v, s.cloud.resources) := by
    rw [Resources.getVolume, Resources.find_of_some hstored]
    rfl
  have hinject : s.cloud.injections.get? "get_volume" = none := by
    rw [h.steady.injections]
    rfl
  have hanswer : s.cloud.answer (.getVolume diskId) =
      (.ok v, s.cloud.record (.getVolume diskId)) := by
    refine (Cloud.reach_of_uninjected hinject).trans ?_
    rw [show Resources.answer (.getVolume diskId) s.cloud.resources = _ from hread]
    rfl
  refine ⟨v, a, ?_, hother, hsame, hdevice⟩
  have hlogged := answerLogged_of_steady h.steady hanswer h.steady.injections now
  show Program.run backend (.call (.getVolume diskId) _) now s = _
  rw [Program.run, show backend (.getVolume diskId) now s = _ from hlogged]
  rfl

theorem Attached.run_attachUnlessAttached (h : s.Attached vmId diskId device) (now : Nat) :
    (attachUnlessAttached settings vmId diskId).run.run backend now s =
      ⟨.ok (some device), now, s.noted (.getVolume diskId) now⟩ := by
  obtain ⟨v, a, hread, hother, hsame, rfl⟩ := h.run_getVolume now
  refine (run_bind_ok (run_openService h.compute _ now)).trans ?_
  refine (run_bind_ok (run_openService h.volume _ now)).trans ?_
  refine (run_bind_ok hread).trans ?_
  rw [hother, hsame]
  rfl

/-- Without one of the services for servers and volumes, an operation that opens both fails at
    once. -/
theorem services_of_run {f : Operation α} {now later : Nat} {a : α}
    (h : (do openCompute; openVolume; f : Operation α).run.run backend now s =
      ⟨.ok a, later, s'⟩) :
    s.cloud.openService .compute = .ok () ∧ s.cloud.openService .volume = .ok () := by
  cases hcompute : s.cloud.openService .compute with
  | error e => cases h.symm.trans (run_bind_error (run_openService hcompute _ now))
  | ok _ =>
    cases hvolume : s.cloud.openService .volume with
    | error e =>
      cases h.symm.trans ((run_bind_ok (run_openService hcompute _ now)).trans
        (run_bind_error (run_openService hvolume _ now)))
    | ok _ => exact ⟨rfl, rfl⟩

/-- A success leaves the disk attached; the device it may tell is that of the attachment. -/
theorem attached_of_run (hs : s.Steady) {told : Option String} {now later : Nat}
    (h : (attachUnlessAttached settings vmId diskId).run.run backend now s =
      ⟨.ok told, later, s'⟩) :
    ∃ device, s'.Attached vmId diskId device ∧ (told = none ∨ told = some device) := by
  have hends : _ ∧ (Program.run backend _ now s).state.Steady ∧ _ := Ensures.of_run <|
    hs.ensures_of_faltering <|
      attachUnlessAttached_attaches settings vmId diskId s.cloud.resources
  rw [h] at hends
  obtain ⟨⟨device, hattached, htold⟩, hsteady, hunavailable⟩ := hends
  have hopens := Cloud.openService_congr hunavailable
  obtain ⟨hcompute, hvolume⟩ := services_of_run h
  exact ⟨device, ⟨hsteady, (hopens _).trans hcompute, (hopens _).trans hvolume, hattached⟩, htold⟩

/-! ## Two ways to attach a disk -/

theorem Attached.run_attachDisk (h : s.Attached vmId diskId device) (now : Nat) :
    (attachDisk settings vmId diskId).run.run backend now s =
      ⟨.ok (), now, s.noted (.getVolume diskId) now⟩ :=
  run_bind_ok (h.run_attachUnlessAttached now)

theorem Attached.run_attachDiskWithHint (h : s.Attached vmId diskId device) (now : Nat) :
    (attachDiskWithHint settings vmId diskId).run.run backend now s =
      ⟨.ok ⟨device⟩, now, s.noted (.getVolume diskId) now⟩ :=
  run_bind_ok (h.run_attachUnlessAttached now)

/-- Both ways fail alike, or both succeed and leave the same resources, with the disk attached
    as the device that is told. -/
theorem Steady.run_attachDisk (hs : s.Steady) (settings : Settings) (vmId diskId : String)
    (now : Nat) :
    (∃ e later s', (attachDisk settings vmId diskId).run.run backend now s =
        ⟨.error e, later, s'⟩ ∧
      (attachDiskWithHint settings vmId diskId).run.run backend now s = ⟨.error e, later, s'⟩) ∨
    ∃ device later s' s'', (attachDisk settings vmId diskId).run.run backend now s =
        ⟨.ok (), later, s'⟩ ∧
      (attachDiskWithHint settings vmId diskId).run.run backend now s =
        ⟨.ok ⟨device⟩, later, s''⟩ ∧
      s'.Attached vmId diskId device ∧ s''.Attached vmId diskId device ∧
      s'.cloud.resources = s''.cloud.resources := by
  cases hrun : (attachUnlessAttached settings vmId diskId).run.run backend now s with
  | mk r later s' =>
    cases r with
    | error e => exact .inl ⟨e, later, s', run_bind_error hrun, run_bind_error hrun⟩
    | ok told =>
      obtain ⟨device, hattached, rfl | rfl⟩ := attached_of_run hs hrun
      · -- The path has not been told yet, so the volume is looked at once more.
        obtain ⟨v, a, hread, -, hsame, rfl⟩ := hattached.run_getVolume later
        refine .inr ⟨a.device, later, s', s'.noted (.getVolume diskId) later, run_bind_ok hrun, ?_,
          hattached, hattached.noted later, rfl⟩
        refine (run_bind_ok hrun).trans ?_
        refine (run_bind_ok (run_openService hattached.volume _ later)).trans ?_
        refine (run_bind_ok hread).trans ?_
        rw [hsame]
        rfl
      · exact .inr ⟨device, later, s', s', run_bind_ok hrun, run_bind_ok hrun, hattached, hattached,
          rfl⟩

/-! ## Once more -/

theorem run_eq {p : Operation α} {r : Except OperationError α} {later : Nat}
    (h : p.run.run backend s.time s = ⟨r, later, s'⟩) :
    s.run p = (r, { s' with time := later }) := by
  rw [run, runAction, h]

/-- What attaches an attached disk only looks at it. -/
theorem Attached.run_again (h : s.Attached vmId diskId device) {c : Command} (chance : Chance)
    (hc : c.Attaches vmId diskId) :
    (s.run (c.operation settings chance)).2 = s.noted (.getVolume diskId) s.time := by
  rcases hc with rfl | rfl
  · exact congrArg Prod.snd (run_eq (h.run_attachDisk s.time))
  · exact congrArg Prod.snd (run_eq (h.run_attachDiskWithHint s.time))

theorem mutatingCalls_noted (s : Session) (diskId : String) (now : Nat) :
    (s.noted (.getVolume diskId) now).cloud.mutatingCalls = s.cloud.mutatingCalls := by
  have hread : Cloud.isRead "get_volume" = true := by decide
  simp [Cloud.mutatingCalls, noted, Cloud.record, Call.operation, hread]

theorem Attached.perform (h : s.Attached vmId diskId device) (settings : Settings)
    {commands : List (Command × Chance)} (hcommands : ∀ c ∈ commands, c.1.Attaches vmId diskId) :
    (s.perform settings commands).Attached vmId diskId device ∧
      (s.perform settings commands).cloud.clearCalls = s.cloud.clearCalls ∧
      (s.perform settings commands).cloud.mutatingCalls = s.cloud.mutatingCalls := by
  induction commands generalizing s with
  | nil => exact ⟨h, rfl, rfl⟩
  | cons c commands ih =>
    obtain ⟨hc, hcommands⟩ := List.forall_mem_cons.1 hcommands
    obtain ⟨hattached, hcloud, hcalls⟩ := ih (h.noted s.time) hcommands
    rw [mutatingCalls_noted] at hcalls
    have hstep : s.perform settings (c :: commands) =
        (s.noted (.getVolume diskId) s.time).perform settings commands := by
      rw [Session.perform, List.foldl_cons, h.run_again c.2 hc]
      rfl
    rw [hstep]
    exact ⟨hattached, hcloud, hcalls⟩

/-- The two ways to attach a disk are the same operation, and both are idempotent: they leave the
    same resources and fail alike, the path that is told is that of the first attachment stored,
    and however often the disk is attached again, either way, that succeeds with the same path
    and changes nothing. -/
theorem attachDisk_idempotent (hs : s.Steady) (settings : Settings) (vmId diskId : String) :
    let plain := s.run (attachDisk settings vmId diskId)
    let hinted := s.run (attachDiskWithHint settings vmId diskId)
    plain.2.cloud.resources = hinted.2.cloud.resources ∧
      plain.1 = hinted.1.map (fun _ => ()) ∧
      ∀ hint, hinted.1 = .ok hint →
        (∃ v a, hinted.2.cloud.resources.volumes.get? diskId = some v ∧
          v.attachmentTo? vmId = some a ∧ hint.path = a.device) ∧
        ∀ start, start = plain.2 ∨ start = hinted.2 →
          ∀ commands : List (Command × Chance),
            (∀ c ∈ commands, c.1.Attaches vmId diskId) →
            let again := start.perform settings commands
            again.cloud.clearCalls = start.cloud.clearCalls ∧
              again.cloud.mutatingCalls = start.cloud.mutatingCalls ∧
              (again.run (attachDisk settings vmId diskId)).1 = .ok () ∧
              (again.run (attachDiskWithHint settings vmId diskId)).1 = .ok hint := by
  intro plain hinted
  obtain ⟨e, later, s', hplain, hhinted⟩ |
    ⟨device, later, s', s'', hplain, hhinted, hattached', hattached'', hresources⟩ :=
    hs.run_attachDisk settings vmId diskId s.time
  · have hplain : plain = _ := run_eq hplain
    have hhinted : hinted = _ := run_eq hhinted
    rw [hplain, hhinted]
    exact ⟨rfl, rfl, nofun⟩
  · have hplain : plain = _ := run_eq hplain
    have hhinted : hinted = _ := run_eq hhinted
    rw [hplain, hhinted]
    refine ⟨hresources, rfl, ?_⟩
    rintro hint h
    cases h
    obtain ⟨v, a, hv, -, hsame, hdevice⟩ := hattached''.attached
    refine ⟨⟨v, a, hv, hsame, hdevice.symm⟩, fun start hstart commands hcommands => ?_⟩
    have hstarted : start.Attached vmId diskId device := by
      rcases hstart with rfl | rfl
      · exact { hattached' with steady := { hattached'.steady with } }
      · exact { hattached'' with steady := { hattached''.steady with } }
    obtain ⟨hagain, hcloud, hcalls⟩ := hstarted.perform settings hcommands
    exact ⟨hcloud, hcalls, congrArg Prod.fst (run_eq (hagain.run_attachDisk _)),
      congrArg Prod.fst (run_eq (hagain.run_attachDiskWithHint _))⟩

/-- A server and a disk that the backend will attach under a path of its own choice. -/
def displacedSession : Session where
  cloud := ({} : Cloud).seed fun s =>
    (((s.addFlavor ⟨"small", "small", 1, 1024, 10, 20, 0⟩).addServer "vm" "small").addVolume
      "disk" 10).reportDevice "disk" "/dev/vdx"

/-- The path that is told is not the one asked for, and it is told again after the disk was
    attached without a path. -/
theorem attachDisk_idempotent_displaced :
    let attach := attachDisk {} "vm" "disk"
    let attachWithHint := attachDiskWithHint {} "vm" "disk"
    let again := (displacedSession.run attach).2.perform {} [(.attachDisk "vm" "disk", default)]
    displacedSession.Steady ∧ (displacedSession.run attachWithHint).1 = .ok ⟨"/dev/vdx"⟩ ∧
      (again.run attachWithHint).1 = .ok ⟨"/dev/vdx"⟩ ∧
      again.cloud.mutatingCalls = ["attach_volume"] := by
  intro attach attachWithHint again
  have hsteady : displacedSession.Steady := ⟨rfl, rfl, rfl, rfl, rfl⟩
  have hhint : (displacedSession.run attachWithHint).1 = .ok ⟨"/dev/vdx"⟩ :=
    eq_ok_of_toOption (by decide +kernel)
  have hmutating : (displacedSession.run attach).2.cloud.mutatingCalls = ["attach_volume"] := by
    decide +kernel
  obtain ⟨-, -, hidempotent⟩ := attachDisk_idempotent hsteady {} "vm" "disk"
  obtain ⟨-, hagain⟩ := hidempotent _ hhint
  obtain ⟨-, hcalls, -, hpath⟩ := hagain _ (.inl rfl) [(.attachDisk "vm" "disk", default)]
    (List.forall_mem_singleton.2 (.inl rfl))
  exact ⟨hsteady, hhint, hpath, hcalls.trans hmutating⟩

end Session

end CloudProvider
