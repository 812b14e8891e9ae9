import CloudProvider.Proofs.Avoidance
import CloudProvider.Simulated.Session
import Mathlib.Logic.Relation
import Mathlib.Data.Set.Defs

/-!
# Interference

Operations follow one another on a simulated cloud. Any call may be refused, a volume
may report any status and any device, and between any two calls another client may
detach a volume or delete a volume or a server. Even so, no volume is ever attached
twice: a volume is only attached after it was seen without attachments, and no one
else attaches it in between.

* `Moment.Step`: what happens from one moment to the next;
* `vetting`: the world in which only volumes that were seen free may be attached; every
  operation keeps to it (`Command.vets`);
* `Moment.consistent_of_reachable`: volumes and servers stay consistent at all times;
* `Session.consistent_of_run`: and so they do in a session, whatever it scripts.
-/

namespace CloudProvider

open Program Lifecycle

/-! ## Moments -/

/-- The command under way, if there is one, with what is left of its program, and the
    cloud. -/
structure Moment where
  running : Option ((c : Command) × Action (Except OperationError c.Answer))
  cloud : Cloud

namespace Moment

/-- What happens next. -/
inductive Step (settings : Settings) : Moment → Moment → Prop
  | starts (c : Command) (chance : Chance) (cloud : Cloud) :
    Step settings ⟨none, cloud⟩ ⟨some ⟨c, (c.operation settings chance).run⟩, cloud⟩
  | ends (c : Command) (r : Except OperationError c.Answer) (cloud : Cloud) :
    Step settings ⟨some ⟨c, .done r⟩, cloud⟩ ⟨none, cloud⟩
  | sleeps (c : Command) (ms : Nat) (next : Action (Except OperationError c.Answer))
      (cloud : Cloud) :
    Step settings ⟨some ⟨c, .sleep ms next⟩, cloud⟩ ⟨some ⟨c, next⟩, cloud⟩
  /-- A call reaches the cloud. -/
  | answers (c : Command) (call : Call)
      (next : Reply call.Answer → Action (Except OperationError c.Answer)) (took : Nat)
      (cloud : Cloud) :
    Step settings ⟨some ⟨c, .call call next⟩, cloud⟩
      ⟨some ⟨c, next ⟨took, (cloud.answer call).1⟩⟩, (cloud.answer call).2⟩
  /-- A call fails before it reaches the cloud. -/
  | refuses (c : Command) (call : Call)
      (next : Reply call.Answer → Action (Except OperationError c.Answer)) (took : Nat)
      (e : CloudError) (cloud : Cloud) :
    Step settings ⟨some ⟨c, .call call next⟩, cloud⟩ ⟨some ⟨c, next ⟨took, .error e⟩⟩, cloud⟩
  /-- Another client acts. -/
  | interferes (m : Moment) (i : Interference) :
    Step settings m { m with cloud := (m.cloud.answer i.call).2 }
  /-- A failure is injected into calls to come. -/
  | injects (m : Moment) (operation : String) (i : Injection) :
    Step settings m { m with cloud := m.cloud.injectInto operation i }
  /-- The status that a volume reports is fixed. -/
  | pins (m : Moment) (volumeId : String) (status : VolumeStatus) :
    Step settings m { m with cloud := m.cloud.seed (·.pinStatus volumeId status) }
  /-- The device that a volume is attached as is fixed. -/
  | reports (m : Moment) (volumeId device : String) :
    Step settings m { m with cloud := m.cloud.seed (·.reportDevice volumeId device) }

end Moment

/-! ## Volumes that were seen free -/

/-- Which volumes are known to be free, after a call and its outcome. -/
def knownFree : (c : Call) → Except CloudError c.Answer → Set String → Set String
  | .getVolume id, .ok v, known => fun d => d ∈ known ∨ (d = id ∧ v.attachments = [])
  | .attachVolume _ id _, .ok _, known => fun d => d ∈ known ∧ d ≠ id
  | _, _, known => known

/-- The world in which only volumes that were seen free may be attached. -/
def vetting : World Call Call.Answer (Set String) where
  permits
    | .attachVolume _ id _, known => id ∈ known
    | _, _ => True
  leads c known reply known' := known' = knownFree c reply.outcome known

variable {c : Call} {known : Set String} {settings : Settings}

theorem vetting_permits (hc : ¬ c.Attaches) (known : Set String) : vetting.permits c known := by
  cases c <;> first | trivial | exact absurd trivial hc

theorem subset_knownFree (hc : ¬ c.Attaches) (r : Except CloudError c.Answer)
    (known : Set String) : known ⊆ knownFree c r known := by
  cases r with
  | error e => cases c <;> exact fun _ => id
  | ok a =>
    cases c with
    | attachVolume serverId volumeId device => exact absurd trivial hc
    | getVolume id => exact fun d hd => .inl hd
    | _ => exact fun _ => id

theorem knownFree_error (c : Call) (e : CloudError) (known : Set String) :
    knownFree c (.error e) known = known := by
  cases c <;> rfl

theorem not_attaches_call (i : Interference) : ¬ i.call.Attaches := by
  cases i <;> exact id

theorem knownFree_call (i : Interference) (r : Except CloudError i.call.Answer)
    (known : Set String) : knownFree i.call r known = known := by
  cases i <;> rfl

/-! ## Every operation keeps to it -/

/-- What attaches nothing may be done at any time, and what is known stays known. -/
theorem vets_of_avoids {α : Type} {p : Operation α} (hp : Operation.Avoids Call.Attaches p)
    (known : Set String) :
    p.run.Ensures vetting (fun _ known' => known ⊆ known') known := by
  refine hp.ensures (I := (known ⊆ ·)) (fun c known' hsub hc => ?_) (fun _ _ hsub => hsub)
    fun _ => id
  refine ⟨vetting_permits hc known', ?_⟩
  rintro reply known'' rfl
  exact fun d hd => subset_knownFree hc _ _ (hsub hd)

theorem vets_bind {α β : Type} {p : Operation α} {f : α → Operation β}
    (hp : Operation.Avoids Call.Attaches p)
    (hf : ∀ a known', known ⊆ known' → (f a).run.Ensures vetting (fun _ _ => True) known') :
    (p >>= f).run.Ensures vetting (fun _ _ => True) known := by
  refine Operation.ensures_bind.2 ((vets_of_avoids hp known).mono fun r known' hsub => ?_)
  cases r with
  | ok a => exact hf a known' hsub
  | error e => trivial

namespace Lifecycle

open Operation

/-- However often it is tried, a disk is attached at most once. -/
theorem attachFree_vets {vmId diskId : String} (h : diskId ∈ known) :
    (attachFree settings vmId diskId).run.Ensures vetting (fun _ _ => True) known := by
  refine vets_bind (avoids_nextDevicePath id (fun _ => id) id) fun device known' hsub => ?_
  refine Operation.ensures_bind.2 (Operation.ensures_ofOutcome.2 ?_)
  refine ensures_repeated (I := fun known => diskId ∈ known) ?_ ?_ ?_ _ (hsub h)
  · exact fun known hknown => hknown
  · intro known took a known' hknown hl
    exact (vets_of_avoids (avoids_awaitVolume id _ _) _).mono fun _ _ _ => trivial
  · -- A try that fails attaches nothing, so the next one is in order too.
    rintro known took e known' hknown rfl
    exact ⟨trivial, fun _ => hknown⟩

/-- A volume that has no attachment to any server is seen free. -/
theorem attachments_eq_nil {v : Volume} {vmId : String}
    (hother : v.attachmentElsewhere? vmId = none) (hsame : v.attachmentTo? vmId = none) :
    v.attachments = [] := by
  rw [Volume.attachmentElsewhere?, List.find?_eq_none] at hother
  rw [Volume.attachmentTo?, List.find?_eq_none] at hsame
  refine List.eq_nil_iff_forall_not_mem.2 fun a ha => ?_
  have hne := hsame a ha
  have heq := hother a ha
  simp_all

theorem attachUnlessAttached_vets {vmId diskId : String} :
    (attachUnlessAttached settings vmId diskId).run.Ensures vetting (fun _ _ => True) known := by
  refine vets_bind (avoids_ask id _) fun _ known _ => ?_
  refine vets_bind (avoids_ask id _) fun _ known _ => ?_
  refine Operation.ensures_bind.2 (Operation.ensures_askFor.2 ⟨trivial, ?_⟩)
  rintro ⟨took, outcome⟩ known' rfl
  cases outcome with
  | error e => trivial
  | ok volume =>
    show Program.Ensures _ _ _ _
    dsimp only
    split
    · trivial
    · trivial
    · rename_i hother hsame
      split
      · trivial
      · have hfree := attachments_eq_nil hother hsame
        refine Operation.ensures_bind.2 ((attachFree_vets (.inr ⟨rfl, hfree⟩)).mono ?_)
        intro r known _
        cases r <;> trivial

theorem attachDisk_vets {vmId diskId : String} :
    (attachDisk settings vmId diskId).run.Ensures vetting (fun _ _ => True) known := by
  refine Operation.ensures_bind.2 (attachUnlessAttached_vets.mono fun r known _ => ?_)
  cases r <;> trivial

theorem attachDiskWithHint_vets {vmId diskId : String} :
    (attachDiskWithHint settings vmId diskId).run.Ensures vetting (fun _ _ => True) known := by
  refine Operation.ensures_bind.2 (attachUnlessAttached_vets.mono fun r known _ => ?_)
  cases r with
  | error e => trivial
  | ok device =>
    cases device with
    | some device => trivial
    | none =>
      refine vets_bind (avoids_ask id _) fun _ known _ => ?_
      refine vets_bind (avoids_askFor id _ _) fun volume known _ => ?_
      split <;> trivial

theorem Command.vets (settings : Settings) (chance : Chance) (c : Command) (known : Set String) :
    (c.operation settings chance).run.Ensures vetting (fun _ _ => True) known := by
  cases hc : c.attachesDisk with
  | false =>
    have havoids := Command.avoids_attaches settings chance hc
    exact (vets_of_avoids havoids known).mono fun _ _ _ => trivial
  | true =>
    cases c with
    | attachDisk vmId diskId => exact attachDisk_vets
    | attachDiskWithHint vmId diskId => exact attachDiskWithHint_vets
    | _ => cases hc

end Lifecycle

/-! ## Consistency at every moment -/

/-- Nothing is attached to a volume, if it exists. -/
def Resources.Unattached (s : Resources) (id : String) : Prop :=
  ∀ v, s.volumes.get? id = some v → v.attachments = []

theorem Resources.Unattached.mono {s s' : Resources} {id : String} (h : s.Unattached id)
    (hs : s.AttachesNothing s') : s'.Unattached id := by
  intro v' hv'
  rcases hs id v' hv' with ⟨hattachments, -⟩ | ⟨-, v, hv, hattachments⟩
  · exact hattachments
  · rw [← hattachments, h v hv]

/-- The cloud is consistent, and what is known to be free is free. -/
structure Vetted (known : Set String) (cloud : Cloud) : Prop where
  consistent : cloud.resources.Consistent
  free : ∀ id ∈ known, cloud.resources.Unattached id

namespace Vetted

variable {cloud cloud' : Cloud}

theorem attachVolume (h : Vetted known cloud) {serverId volumeId device : String}
    {a : Attachment} (hvolume : volumeId ∈ known)
    (hs : cloud.resources.attachVolume serverId volumeId device = .ok (a, cloud'.resources)) :
    Vetted (knownFree (.attachVolume serverId volumeId device) (.ok a) known) cloud' := by
  refine ⟨Resources.attachVolume_consistent h.consistent (h.free volumeId hvolume) hs, ?_⟩
  rintro id ⟨hid, hne⟩ v hv
  obtain ⟨server, hserver, hs⟩ := Resources.find_bind_ok hs
  obtain ⟨volume, hvolume, hs⟩ := Resources.find_bind_ok hs
  obtain ⟨-, hresources⟩ := Prod.mk.inj (Except.ok.inj hs)
  rw [← hresources, Table.get?_insert_of_ne _ _ hne] at hv
  exact h.free id hid v hv

theorem getVolume (h : Vetted known cloud) {id : String} {v : Volume}
    (hs : cloud.resources.getVolume id = .ok (v, cloud'.resources)) :
    Vetted (knownFree (.getVolume id) (.ok v) known) cloud' := by
  obtain ⟨hfind, hresources⟩ := Resources.unchanged_ok hs
  refine ⟨hresources ▸ h.consistent, ?_⟩
  rw [hresources]
  rintro id' (hid' | ⟨rfl, hattachments⟩) stored hstored
  · exact h.free id' hid' stored hstored
  · -- A read may lie about the status of a volume, but not about its attachments.
    rw [Resources.find, hstored] at hfind
    cases hfind
    exact hattachments

theorem answer_ok (h : Vetted known cloud) {c : Call} (hc : vetting.permits c known)
    {a : c.Answer} (hs : Resources.answer c cloud.resources = .ok (a, cloud'.resources)) :
    Vetted (knownFree c (.ok a) known) cloud' := by
  have hother (hattaches : ¬ c.Attaches) (hknown : knownFree c (.ok a) known = known) :
      Vetted (knownFree c (.ok a) known) cloud' := by
    have hnothing := Resources.answer_attachesNothing h.consistent hattaches hs
    rw [hknown]
    exact ⟨hnothing.consistent, fun id hid => (h.free id hid).mono hnothing⟩
  cases c with
  | attachVolume serverId volumeId device => exact h.attachVolume hc hs
  | getVolume id => exact h.getVolume hs
  | _ => exact hother id rfl

theorem answer (h : Vetted known cloud) {c : Call} (hc : vetting.permits c known) :
    Vetted (knownFree c (cloud.answer c).1 known) (cloud.answer c).2 := by
  cases hanswer : cloud.answer c with
  | mk r cloud' =>
    cases r with
    | error e =>
      simp only
      rw [knownFree_error]
      have hresources := Cloud.answer_resources_of_error hanswer
      exact ⟨hresources ▸ h.consistent, hresources ▸ h.free⟩
    | ok a => exact h.answer_ok hc (Cloud.answer_ok hanswer)

theorem interfere (h : Vetted known cloud) (i : Interference) :
    Vetted known (cloud.answer i.call).2 := by
  have hanswer := h.answer (vetting_permits (not_attaches_call i) known)
  rwa [knownFree_call] at hanswer

end Vetted

namespace Moment

/-- The cloud is consistent, and the command under way attaches only volumes that were
    seen free. -/
structure Sound (m : Moment) : Prop where
  consistent : m.cloud.resources.Consistent
  vets {c : Command} {p : Action (Except OperationError c.Answer)} : m.running = some ⟨c, p⟩ →
    ∃ known, Vetted known m.cloud ∧ p.Ensures vetting (fun _ _ => True) known

/-- What happens to the cloud without the command under way. -/
theorem Sound.of_cloud {m : Moment} (h : m.Sound) {cloud : Cloud}
    (hcloud : ∀ known, Vetted known m.cloud → Vetted known cloud) :
    Sound { m with cloud := cloud } where
  consistent := (hcloud ∅ ⟨h.consistent, fun _ hid => hid.elim⟩).consistent
  vets hp := by
    obtain ⟨known, hknown, hvets⟩ := h.vets hp
    exact ⟨known, hcloud known hknown, hvets⟩

theorem Step.sound {m m' : Moment} (hstep : Step settings m m') (h : m.Sound) : m'.Sound := by
  cases hstep with
  | starts c chance cloud =>
    -- What an earlier command has seen is of no use to this one.
    refine ⟨h.consistent, ?_⟩
    rintro _ _ ⟨⟩
    exact ⟨∅, ⟨h.consistent, fun _ hid => hid.elim⟩, Command.vets settings chance c ∅⟩
  | ends c r cloud => exact ⟨h.consistent, nofun⟩
  | sleeps c ms next cloud =>
    obtain ⟨known, hknown, hnext⟩ := h.vets rfl
    refine ⟨h.consistent, ?_⟩
    rintro _ _ ⟨⟩
    exact ⟨known, hknown, hnext⟩
  | answers c call next took cloud =>
    obtain ⟨known, hknown, hcall, hnext⟩ := h.vets rfl
    have hanswer := hknown.answer hcall
    refine ⟨hanswer.consistent, ?_⟩
    rintro _ _ ⟨⟩
    exact ⟨_, hanswer, hnext _ _ rfl⟩
  | refuses c call next took e cloud =>
    obtain ⟨known, hknown, hcall, hnext⟩ := h.vets rfl
    refine ⟨h.consistent, ?_⟩
    rintro _ _ ⟨⟩
    exact ⟨known, hknown, hnext ⟨took, .error e⟩ known (knownFree_error call e known).symm⟩
  | interferes m i => exact h.of_cloud fun known hknown => hknown.interfere i
  | injects m operation i => exact h.of_cloud fun known hknown => ⟨hknown.consistent, hknown.free⟩
  | pins m volumeId status => exact h.of_cloud fun known hknown => ⟨hknown.consistent, hknown.free⟩
  | reports m volumeId device =>
    exact h.of_cloud fun known hknown => ⟨hknown.consistent, hknown.free⟩

/-- However commands are refused and interfered with, at every moment every volume is
    free and available, or in use by one server that exists. -/
theorem consistent_of_reachable {cloud : Cloud} (h : cloud.resources.Consistent) {m : Moment}
    (hm : Relation.ReflTransGen (Step settings) ⟨none, cloud⟩ m) :
    m.cloud.resources.Consistent := by
  have hsound : m.Sound := by
    induction hm with
    | refl => exact ⟨h, nofun⟩
    | tail _ hstep ih => exact hstep.sound ih
  exact hsound.consistent

/-- A cloud with a server and a free volume. -/
def smallCloud : Cloud := ({} : Cloud).seed fun s => (s.addServer "vm" "small").addVolume "disk" 10

theorem consistent_smallCloud : smallCloud.resources.Consistent := by
  intro id v hv
  obtain rfl := Table.eq_of_get?_singleton hv rfl
  exact .inl ⟨rfl, rfl⟩

/-- Another client deletes the server just after the volume was seen free. -/
theorem consistent_of_reachable_smallCloud :
    ∃ m, Relation.ReflTransGen (Step {}) ⟨none, smallCloud⟩ m ∧
      m.cloud.resources.servers.contains "vm" = false ∧ m.cloud.resources.Consistent := by
  have hrun : Relation.ReflTransGen (Step {}) ⟨none, smallCloud⟩ _ :=
    .head (.starts (.attachDisk "vm" "disk") default smallCloud) <|
    .head (.answers _ (.openService .compute) _ 0 _) <|
    .head (.answers _ (.openService .volume) _ 0 _) <|
    .head (.answers _ (.getVolume "disk") _ 0 _) <|
    .single (.interferes _ (.deleteServer "vm"))
  exact ⟨_, hrun, by decide, consistent_of_reachable consistent_smallCloud hrun⟩

end Moment

/-! ## Sessions -/

namespace Session

variable {s : Session}

theorem overlay_cloud (c : Call) (a : c.Answer) (s : Session) :
    (overlay c a s).2.cloud = s.cloud := by
  cases c <;> rfl

theorem knownFree_overlay (c : Call) (a : c.Answer) (s : Session) :
    knownFree c (.ok (overlay c a s).1) known = knownFree c (.ok a) known := by
  cases c <;> rfl

theorem vetted_reach (h : Vetted known s.cloud) (hc : vetting.permits c known) :
    Vetted (knownFree c (s.reach c).1 known) (s.reach c).2.cloud := by
  have hanswer := h.answer hc
  unfold reach
  cases hreply : s.cloud.answer c with
  | mk r cloud =>
    rw [hreply] at hanswer
    cases r with
    | error e => exact hanswer
    | ok a =>
      simp only
      rw [knownFree_overlay, overlay_cloud]
      exact hanswer

theorem vetted_interfere (h : Vetted known s.cloud) (race : Option Interference) :
    Vetted known (s.interfere race).cloud := by
  cases race with
  | none => exact h
  | some i => exact h.interfere i

theorem vetted_reachUnder (h : Vetted known s.cloud) (hc : vetting.permits c known)
    (effect : Effect) :
    Vetted (knownFree c (s.reachUnder c effect).1.outcome known)
      (s.reachUnder c effect).2.cloud := by
  have hraced := vetted_interfere h effect.race
  unfold reachUnder
  cases effect.refusal with
  | some e =>
    simp only
    rw [knownFree_error]
    exact hraced
  | none => exact vetted_reach hraced hc

theorem vetted_backend (h : Vetted known s.cloud) (hc : vetting.permits c known) (now : Nat) :
    Vetted (knownFree c (backend c now s).1.outcome known) (backend c now s).2.cloud := by
  have hlogged : Vetted (knownFree c (s.answerLogged c now).1.outcome known)
      (s.answerLogged c now).2.cloud := by
    cases hpop : pop s.effects c.operation with
    | mk effect rest =>
      rw [answerLogged, hpop]
      exact vetted_reachUnder (s := { s with effects := rest }) h hc (effect.getD {})
  cases c with
  | openService service => exact h
  | _ => exact hlogged

/-- Whatever a session scripts, an operation leaves its cloud consistent. -/
theorem consistent_of_run (h : s.cloud.resources.Consistent) (settings : Settings)
    (chance : Chance) (command : Command) :
    (s.run (command.operation settings chance)).2.cloud.resources.Consistent := by
  have hvets := Command.vets settings chance command ∅
  have htransfer := Ensures.transfer (W := vetting) (V := Backend.world backend)
    (fun c known s (hs : Vetted known s.cloud) hc => ⟨trivial, ?_⟩) (fun _ _ _ hs => hs) hvets
    (t := s) ⟨h, fun _ hid => hid.elim⟩
  · obtain ⟨known, hknown, -⟩ := htransfer.of_run
    exact hknown.consistent
  · rintro reply s' ⟨now, hs'⟩
    have hbackend := vetted_backend hs hc now
    rw [hs'] at hbackend
    exact ⟨_, rfl, hbackend⟩

end Session

end CloudProvider
