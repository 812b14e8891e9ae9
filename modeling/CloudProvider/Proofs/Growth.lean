import CloudProvider.Proofs.Resizing

/-!
# Growth

Commands follow one another on a cloud that other clients use too, and any call may be
refused. Even so, volumes only grow: none is ever extended but to grow. And as no id is given
out twice, a volume that is gone does not come back.

* `RunsAmid`: the runs of a program amid what other clients do;
* `Resources.GrowsInto`: what becomes of all volumes in the course of time;
* `Moment.OnlyGrows`: what holds of them from a moment on;
* `disks_only_grow`: they only grow, one command at a time and at all times.
-/

namespace CloudProvider

open Program Lifecycle Resources

variable {s s' : Resources} {settings : Settings} {deleted : String → Prop}

/-! ## Runs amid other clients -/

/-- The runs of a program on a cloud that other clients use too: its events, what the others do
    in the meantime, its result, and the cloud afterwards. A call may be refused before it
    reaches the cloud. -/
inductive RunsAmid {α : Type} : Action α → Cloud → List (Event Call Call.Answer) →
    List Interference → α → Cloud → Prop
  | done (a : α) (cloud : Cloud) : RunsAmid (.done a) cloud [] [] a cloud
  | answers (c : Call) (next : Reply c.Answer → Action α) (took : Nat) {a : α}
    {cloud cloud' : Cloud} {events : List (Event Call Call.Answer)} {others : List Interference} :
    RunsAmid (next ⟨took, (cloud.answer c).1⟩) (cloud.answer c).2 events others a cloud' →
      RunsAmid (.call c next) cloud (.called c ⟨took, (cloud.answer c).1⟩ :: events) others a
        cloud'
  | refuses (c : Call) (next : Reply c.Answer → Action α) (took : Nat) (e : CloudError) {a : α}
    {cloud cloud' : Cloud} {events : List (Event Call Call.Answer)} {others : List Interference} :
    RunsAmid (next ⟨took, .error e⟩) cloud events others a cloud' →
      RunsAmid (.call c next) cloud (.called c ⟨took, .error e⟩ :: events) others a cloud'
  | sleeps (ms : Nat) (next : Action α) {a : α} {cloud cloud' : Cloud}
    {events : List (Event Call Call.Answer)} {others : List Interference} :
    RunsAmid next cloud events others a cloud' →
      RunsAmid (.sleep ms next) cloud (.slept ms :: events) others a cloud'
  | interferes (p : Action α) (i : Interference) {a : α} {cloud cloud' : Cloud}
    {events : List (Event Call Call.Answer)} {others : List Interference} :
    RunsAmid p (cloud.answer i.call).2 events others a cloud' →
      RunsAmid p cloud events (i :: others) a cloud'

/-- What is ensured of shared resources holds of the runs amid other clients, but for what
    these have done since. -/
theorem Program.Ensures.of_runsAmid {α : Type} {p : Action α} {Q : α → Shared → Prop}
    {before events : List (Event Call Call.Answer)} {others : List Interference} {a : α}
    {cloud cloud' : Cloud} (h : p.Ensures (sharing deleted) Q (before, s))
    (hs : s.Erodes deleted cloud.resources) (hr : RunsAmid p cloud events others a cloud')
    (hothers : ∀ id, .deleteVolume id ∈ others → deleted id) :
    ∃ s', s'.Erodes deleted cloud'.resources ∧ Q a (before ++ events, s') := by
  induction hr generalizing before s with
  | done a cloud =>
    rw [List.append_nil]
    exact ⟨s, hs, h⟩
  | answers c next took _ ih =>
    have hnext := h.2 ⟨took, _⟩ (_, _) ⟨rfl, _, hs, Cloud.answer_cases c _⟩
    simpa using ih hnext (.refl _) hothers
  | refuses c next took e _ ih =>
    have hnext := h.2 ⟨took, .error e⟩ (_, _) ⟨rfl, _, hs, .inr ⟨⟨e, rfl⟩, rfl⟩⟩
    simpa using ih hnext (.refl _) hothers
  | sleeps ms next _ ih => simpa [sharing] using ih (ensures_sleep.1 h) hs hothers
  | interferes p i _ ih =>
    refine ih h (hs.trans (Cloud.erodes_interferes _ i ?_)) fun id hid => ?_
    · rintro id rfl
      exact hothers id List.mem_cons_self
    · exact hothers id (List.mem_cons_of_mem _ hid)

/-! ## All volumes at all times -/

/-- Volumes grow, or they are gone, or they are new and have ids that had not been given
    out. -/
structure Resources.GrowsInto (s s' : Resources) : Prop where
  issued : s.issued ≤ s'.issued
  sizes : ∀ id size', s'.sizeOf? id = some size' →
    (∃ size ≤ size', s.sizeOf? id = some size) ∨
      (s.Unissued "volume" id ∧ ¬ s'.Unissued "volume" id)

/-- No volume has an id that is yet to be given out. -/
def Resources.VolumesIssued (s : Resources) : Prop :=
  ∀ id, s.Unissued "volume" id → s.sizeOf? id = none

namespace Resources.GrowsInto

variable {s'' : Resources}

theorem refl (s : Resources) : s.GrowsInto s :=
  ⟨Nat.le_refl _, fun _ size h => .inl ⟨size, Nat.le_refl _, h⟩⟩

theorem trans (h : s.GrowsInto s') (h' : s'.GrowsInto s'') : s.GrowsInto s'' where
  issued := Nat.le_trans h.issued h'.issued
  sizes id size'' hsize'' := by
    rcases h'.sizes id size'' hsize'' with ⟨size', hle', hsize'⟩ | ⟨hunissued', hissued'⟩
    · rcases h.sizes id size' hsize' with ⟨size, hle, hsize⟩ | ⟨hunissued, hissued⟩
      · exact .inl ⟨size, UInt32.le_trans hle hle', hsize⟩
      · exact .inr ⟨hunissued, fun hunissued'' => hissued (hunissued''.mono h'.issued)⟩
    · exact .inr ⟨hunissued'.mono h.issued, hissued'⟩

theorem volumesIssued (h : s.GrowsInto s') (hs : s.VolumesIssued) : s'.VolumesIssued := by
  intro id hunissued
  cases hsize' : s'.sizeOf? id with
  | none => rfl
  | some size' =>
    rcases h.sizes id size' hsize' with ⟨size, -, hsize⟩ | ⟨-, hissued⟩
    · rw [hs id (hunissued.mono h.issued)] at hsize
      cases hsize
    · exact absurd hunissued hissued

/-- A volume that is there earlier and later does not shrink. -/
theorem le (h : s.GrowsInto s') (hs : s.VolumesIssued) {id : String} {size size' : UInt32}
    (hsize : s.sizeOf? id = some size) (hsize' : s'.sizeOf? id = some size') : size ≤ size' := by
  rcases h.sizes id size' hsize' with ⟨before, hle, hbefore⟩ | ⟨hunissued, -⟩
  · cases hbefore.symm.trans hsize
    exact hle
  · rw [hs id hunissued] at hsize
    cases hsize

/-- A volume that is gone does not come back. -/
theorem sizeOf?_eq_none (h : s.GrowsInto s') (h' : s'.GrowsInto s'') (hs : s.VolumesIssued)
    {id : String} (hthere : s.sizeOf? id ≠ none) (hgone : s'.sizeOf? id = none) :
    s''.sizeOf? id = none := by
  cases hsize'' : s''.sizeOf? id with
  | none => rfl
  | some size'' =>
    rcases h'.sizes id size'' hsize'' with ⟨size', -, hsize'⟩ | ⟨hunissued, -⟩
    · rw [hgone] at hsize'
      cases hsize'
    · exact absurd (hs id (hunissued.mono h.issued)) hthere

end Resources.GrowsInto

namespace Resources.Resizes

variable {c : Call}

theorem growsInto (h : Resizes c s s') (hc : c.Grows s) : s.GrowsInto s' where
  issued := h.issued
  sizes id size' hsize' := by
    cases h.sizes id with
    | kept hsame => exact .inl ⟨size', UInt32.le_refl _, hsame.symm.trans hsize'⟩
    | created r hcall hunissued hissued => exact .inr ⟨hunissued, hissued⟩
    | extended old size hcall hold hsize =>
      subst hcall
      cases hsize.symm.trans hsize'
      exact .inl ⟨old, hc.2 old hold, hold⟩
    | deleted hcall hnone =>
      rw [hnone] at hsize'
      cases hsize'

/-- A volume that is resized is not attached. -/
theorem detached (h : Resizes c s s') (hc : c.Grows s) (hs : s.VolumesIssued) {id : String}
    {size size' : UInt32} (hsize : s.sizeOf? id = some size)
    (hsize' : s'.sizeOf? id = some size') (hne : size ≠ size') : s.attachmentsOn id = [] := by
  cases h.sizes id with
  | kept hsame =>
    rw [hsame, hsize] at hsize'
    exact absurd (Option.some.inj hsize') hne
  | created r hcall hunissued hissued =>
    rw [hs id hunissued] at hsize
    cases hsize
  | extended old size hcall hold hsize =>
    subst hcall
    exact hc.1
  | deleted hcall hnone =>
    rw [hnone] at hsize'
    cases hsize'

end Resources.Resizes

namespace Moment

variable {m m' m'' : Moment}

/-- The command under way only extends volumes to grow. -/
def Shares (m : Moment) : Prop :=
  ∀ (c : Command) p, m.running = some ⟨c, p⟩ →
    ∃ x : Shared, x.2.Erodes (fun _ => True) m.cloud.resources ∧
      p.Ensures (sharing fun _ => True) (fun _ _ => True) x

theorem Shares.of_erodes (h : m.Shares) {cloud : Cloud}
    (hcloud : m.cloud.resources.Erodes (fun _ => True) cloud.resources) :
    Shares { m with cloud := cloud } := by
  intro c p hp
  obtain ⟨x, hx, hshares⟩ := h c p hp
  exact ⟨x, hx.trans hcloud, hshares⟩

theorem Step.shares (hstep : Step settings m m') (h : m.Shares) : m'.Shares := by
  cases hstep with
  | starts c chance cloud =>
    rintro _ _ ⟨⟩
    exact ⟨_, .refl _, Command.shares settings chance c cloud.resources⟩
  | ends c r cloud => exact nofun
  | sleeps c ms next cloud =>
    rintro _ _ ⟨⟩
    obtain ⟨x, hx, hshares⟩ := h c _ rfl
    exact ⟨(sharing fun _ => True).sleeps ms x, hx, ensures_sleep.1 hshares⟩
  | answers c call next took cloud =>
    rintro _ _ ⟨⟩
    obtain ⟨x, hx, -, hshares⟩ := h c _ rfl
    exact ⟨_, .refl _, hshares ⟨took, _⟩ (_, _) ⟨rfl, _, hx, Cloud.answer_cases call cloud⟩⟩
  | refuses c call next took e cloud =>
    rintro _ _ ⟨⟩
    obtain ⟨x, hx, -, hshares⟩ := h c _ rfl
    exact ⟨_, .refl _, hshares ⟨took, .error e⟩ (_, _) ⟨rfl, _, hx, .inr ⟨⟨e, rfl⟩, rfl⟩⟩⟩
  | interferes m i => exact h.of_erodes (Cloud.erodes_interferes m.cloud i fun _ _ => trivial)
  | injects m operation i => exact h.of_erodes (.refl _)
  | pins m volumeId status => exact h.of_erodes (.of_eq rfl rfl rfl)
  | reports m volumeId device => exact h.of_erodes (.of_eq rfl rfl rfl)

/-- What happens next, happens as if by a call that is in order. -/
theorem Step.resizes (hstep : Step settings m m') (h : m.Shares) :
    ∃ c : Call, c.Grows m.cloud.resources ∧ Resizes c m.cloud.resources m'.cloud.resources := by
  cases hstep with
  | answers c call next took cloud =>
    obtain ⟨x, hx, hcall, -⟩ := h c _ rfl
    exact ⟨call, hx.grows hcall, cloud.resizes_answer call⟩
  | interferes m i => exact ⟨i.call, i.grows_call _, m.cloud.resizes_answer i.call⟩
  | _ => exact ⟨.openService .volume, trivial, .of_volumes_eq (Nat.le_refl _) rfl⟩

theorem growsInto_of_steps (hm : Relation.ReflTransGen (Step settings) m m') (h : m.Shares) :
    m'.Shares ∧ m.cloud.resources.GrowsInto m'.cloud.resources := by
  induction hm with
  | refl => exact ⟨h, .refl _⟩
  | tail _ hstep ih =>
    obtain ⟨hshares, hgrows⟩ := ih
    obtain ⟨c, hc, hresizes⟩ := hstep.resizes hshares
    exact ⟨hstep.shares hshares, hgrows.trans (hresizes.growsInto hc)⟩

/-- From a moment on, volumes only grow, and while nothing is attached to them, and they do not
    come back when they are gone. -/
structure OnlyGrows (settings : Settings) (m : Moment) : Prop where
  grows {m' : Moment} {id : String} {size size' : UInt32} :
    Relation.ReflTransGen (Step settings) m m' → m.cloud.resources.sizeOf? id = some size →
      m'.cloud.resources.sizeOf? id = some size' → size ≤ size'
  detached {m' : Moment} {id : String} {size size' : UInt32} :
    Step settings m m' → m.cloud.resources.sizeOf? id = some size →
      m'.cloud.resources.sizeOf? id = some size' → size ≠ size' →
        m.cloud.resources.attachmentsOn id = []
  gone {m' m'' : Moment} {id : String} :
    Relation.ReflTransGen (Step settings) m m' → Relation.ReflTransGen (Step settings) m' m'' →
      m.cloud.resources.sizeOf? id ≠ none → m'.cloud.resources.sizeOf? id = none →
        m''.cloud.resources.sizeOf? id = none

theorem onlyGrows_of_reachable {cloud : Cloud} (h : cloud.resources.VolumesIssued)
    (hm : Relation.ReflTransGen (Step settings) ⟨none, cloud⟩ m) : m.OnlyGrows settings := by
  obtain ⟨hshares, hgrows⟩ := growsInto_of_steps hm nofun
  have hissued : m.cloud.resources.VolumesIssued := hgrows.volumesIssued h
  constructor
  · intro m' id size size' hm' hsize hsize'
    exact (growsInto_of_steps hm' hshares).2.le hissued hsize hsize'
  · intro m' id size size' hstep hsize hsize' hne
    obtain ⟨c, hc, hresizes⟩ := hstep.resizes hshares
    exact hresizes.detached hc hissued hsize hsize' hne
  · intro m' m'' id hm' hm'' hthere hgone
    obtain ⟨hshares', hgrows'⟩ := growsInto_of_steps hm' hshares
    exact hgrows'.sizeOf?_eq_none (growsInto_of_steps hm'' hshares').2 hissued hthere hgone

end Moment

/-- A disk that is resized grows while nothing is attached to it, at most once, and no other
    disk does. So whatever is done by commands and by other clients, disks only grow, and do
    not come back when they are gone. -/
theorem disks_only_grow (settings : Settings) :
    (∀ (diskId : String) (old sizeGib : UInt32) (cloud cloud' : Cloud)
      (events : List (Event Call Call.Answer)) (others : List Interference)
      (r : Except OperationError Unit), cloud.resources.sizeOf? diskId = some old →
        RunsAmid (resizeDisk settings diskId sizeGib).run cloud events others r cloud' →
          Resized (fun id => .deleteVolume id ∈ others) diskId old sizeGib events r
            cloud.resources cloud'.resources) ∧
    ∀ cloud : Cloud, cloud.resources.VolumesIssued →
      ∀ m, Relation.ReflTransGen (Moment.Step settings) ⟨none, cloud⟩ m → m.OnlyGrows settings := by
  refine ⟨?_, fun cloud h m hm => Moment.onlyGrows_of_reachable h hm⟩
  intro diskId old sizeGib cloud cloud' events others r hold hr
  obtain ⟨s', herodes, hresized⟩ := (resizeDisk_shares diskId sizeGib cloud.resources).of_runsAmid
    (.refl _) hr fun id hid => hid
  exact (hresized old hold).erodes herodes

/-- A cloud with a disk that a server holds, and that is not extended at the first try. -/
def heldDisk : Cloud :=
  (Moment.smallCloud.seed (·.addAttachment "disk" "vm" "/dev/sdb")).failTimes "extend_volume_size" 1

theorem volumesIssued_heldDisk : heldDisk.resources.VolumesIssued := by
  intro id hunissued
  have hne : id ≠ "disk" := by
    rintro rfl
    exact absurd hunissued.prefix_id (by decide)
  have hnone : heldDisk.resources.volumes.get? id = none := by
    refine (Table.get?_modify _ _ _ _).trans ?_
    rw [if_neg hne]
    exact Table.get?_insert_of_ne ∅ _ hne
  rw [Resources.sizeOf?, hnone]
  rfl

/-- Another client deletes the server of a disk just before the disk is looked at, so the disk
    is resized. In another run it deletes the disk, and the disk is gone for good. -/
theorem disks_only_grow_heldDisk :
    (∃ events cloud',
      RunsAmid (resizeDisk {} "disk" 20).run heldDisk events [.deleteServer "vm"] (.ok ()) cloud' ∧
        cloud'.resources.sizeOf? "disk" = some 20 ∧
        Resized (fun id => .deleteVolume id ∈ [Interference.deleteServer "vm"]) "disk" 10 20 events
          (.ok ()) heldDisk.resources cloud'.resources) ∧
    ∃ m, Relation.ReflTransGen (Moment.Step {}) ⟨none, heldDisk⟩ m ∧
      m.cloud.resources.sizeOf? "disk" = none ∧
      ∀ m', Relation.ReflTransGen (Moment.Step {}) m m' →
        m'.cloud.resources.sizeOf? "disk" = none := by
  have hrun : RunsAmid (resizeDisk {} "disk" 20).run heldDisk _ [.deleteServer "vm"] (.ok ()) _ :=
    .answers (.openService .volume) _ 0 <|
    .interferes _ (.deleteServer "vm") <|
    .answers (.getVolume "disk") _ 0 <|
    .answers (.extendVolume "disk" 20) _ 0 <|
    .sleeps _ _ <|
    .answers (.extendVolume "disk" 20) _ 0 <|
    .answers (.getVolume "disk") _ 0 <|
    .done _ _
  have hdelete : Relation.ReflTransGen (Moment.Step {}) ⟨none, heldDisk⟩ _ :=
    .head (.starts (.resizeDisk "disk" 20) default heldDisk) <|
    .single (.interferes _ (.deleteVolume "disk"))
  obtain ⟨hresized, honly⟩ := disks_only_grow {}
  have hsize : heldDisk.resources.sizeOf? "disk" = some 10 := by decide +kernel
  have hheld := honly heldDisk volumesIssued_heldDisk _ .refl
  refine ⟨⟨_, _, hrun, by decide +kernel, hresized "disk" 10 20 _ _ _ _ _ hsize hrun⟩, _, hdelete,
    by decide +kernel, fun m' hm' => ?_⟩
  exact hheld.gone hdelete hm' (by decide +kernel) (by decide +kernel)

end CloudProvider
