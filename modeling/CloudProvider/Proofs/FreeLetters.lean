import CloudProvider.Proofs.Interference
import CloudProvider.Proofs.Letters
import CloudProvider.Proofs.Loosening
import CloudProvider.Proofs.Served

/-!
# Free letters

A disk is only ever attached under a letter for data disks that no device of its server
ends in. The letter is chosen from what was listed some calls earlier, but all that other
clients do in the meantime is to take attachments away, so a letter that was free then is
free when it is used.

* `Resources.LetterFree`: whether a letter may be given to the next disk of a server;
* `Resources.Disturbs`: what other clients do to volumes and servers;
* `lettering`: the world in which a disk is only attached under a free letter, while other
  clients interfere; every operation keeps to it (`Command.letters`);
* `Moment.careful_of_reachable`: so it is at every moment.
-/

namespace CloudProvider

open Program Lifecycle

/-! ## Free letters -/

namespace Resources

variable {s s' s'' : Resources} {settings : Settings} {vmId diskId : String} {letter : Char}

/-- The flavor of a server, if the server exists and its flavor is on offer. -/
def flavorOf? (vmId : String) (s : Resources) : Option Flavor :=
  (s.flavorIdOf? vmId).bind fun id => s.flavors.find? (·.id = id)

/-- Whether a letter may be given to the next disk of a server: it lies in the range of
    the server's flavor, and no device of the server ends in it. -/
structure LetterFree (settings : Settings) (vmId : String) (letter : Char) (s : Resources) :
    Prop where
  ranged : ∃ flavor,
    (∀ id, s.flavorIdOf? vmId = some id → s.flavors.find? (·.id = id) = some flavor) ∧
      Device.firstLetter flavor settings.configDrive ≤ letter ∧ letter ≤ 'z'
  unused : ∀ a ∈ s.attachmentsTo vmId, Device.occupies a.device letter = false

/-- What other clients may do to volumes and servers: attachments go away, and servers. -/
structure Disturbs (s s' : Resources) : Prop where
  flavors : s'.flavors = s.flavors
  attachments id : (s'.attachmentsOn id).Sublist (s.attachmentsOn id)
  servers id : s'.flavorIdOf? id = s.flavorIdOf? id ∨ s'.flavorIdOf? id = none

namespace Disturbs

theorem refl (s : Resources) : s.Disturbs s :=
  ⟨rfl, fun _ => List.Sublist.refl _, fun _ => .inl rfl⟩

theorem trans (h : s.Disturbs s') (h' : s'.Disturbs s'') : s.Disturbs s'' where
  flavors := h'.flavors.trans h.flavors
  attachments id := (h'.attachments id).trans (h.attachments id)
  servers id := by
    rcases h'.servers id with hsame' | hnone'
    · rw [hsame']
      exact h.servers id
    · exact .inr hnone'

theorem flavorIdOf? (h : s.Disturbs s') {id : String} (hid : s'.flavorIdOf? vmId = some id) :
    s.flavorIdOf? vmId = some id := by
  rcases h.servers vmId with hsame | hnone
  · rw [← hsame, hid]
  · rw [hnone] at hid
    cases hid

theorem attachmentsTo (h : s.Disturbs s') {a : Attachment} (ha : a ∈ s'.attachmentsTo vmId) :
    a ∈ s.attachmentsTo vmId := by
  obtain ⟨⟨id, ha⟩, hvm⟩ := mem_attachmentsTo_iff.1 ha
  exact mem_attachmentsTo_iff.2 ⟨⟨id, (h.attachments id).subset ha⟩, hvm⟩

theorem attachmentsOn_eq_nil (h : s.Disturbs s') (hdisk : s.attachmentsOn diskId = []) :
    s'.attachmentsOn diskId = [] :=
  List.sublist_nil.1 (hdisk ▸ h.attachments diskId)

/-- A free letter stays free. -/
theorem letterFree (h : s.Disturbs s') (hletter : s.LetterFree settings vmId letter) :
    s'.LetterFree settings vmId letter := by
  obtain ⟨⟨flavor, hflavor, hrange⟩, hunused⟩ := hletter
  refine ⟨⟨flavor, fun id hid => ?_, hrange⟩, fun a ha => hunused a (h.attachmentsTo ha)⟩
  rw [h.flavors]
  exact hflavor id (h.flavorIdOf? hid)

end Disturbs

/-- Loosening disturbs if no server comes. -/
theorem Loosens.disturbs (h : s.Loosens s')
    (hnew : ∀ id, s.flavorIdOf? id = none → s'.flavorIdOf? id = none) : s.Disturbs s' where
  flavors := h.flavors
  attachments := h.attachments
  servers id := by
    rcases h.servers id with hsame | ⟨hnone, -⟩ | ⟨hnone, -⟩
    · exact .inl hsame
    · exact .inr hnone
    · exact .inr (hnew id hnone)

/-! ### Reads -/

/-- A call that leaves the resources as they are and tells something about them. -/
def Reads (c : Call) (P : Resources → c.Answer → Prop) : Prop :=
  ∀ s a s', Resources.answer c s = .ok (a, s') → s' = s ∧ P s a

theorem reads_getServer (id : String) :
    Reads (.getServer id) fun s server => s.flavorIdOf? id = some server.flavorId := by
  intro s server s' h
  obtain ⟨hfind, rfl⟩ := unchanged_ok h
  exact ⟨rfl, Option.map_eq_some_iff.2 ⟨server, find_ok hfind, rfl⟩⟩

/-- A pinned status changes what is reported of a volume, but only in its status. -/
theorem getVolume_ok {id : String} {v : Volume} (h : s.getVolume id = .ok (v, s')) :
    s' = s ∧ ∃ stored status, s.volumes.get? id = some stored ∧ v = { stored with status } := by
  obtain ⟨hread, rfl⟩ := unchanged_ok h
  cases hfind : find s'.volumes "volume" id with
  | error e =>
    rw [hfind] at hread
    cases hread
  | ok stored =>
    rw [hfind] at hread
    cases hread
    exact ⟨rfl, stored, _, find_ok hfind, rfl⟩

theorem reads_getVolume (id : String) :
    Reads (.getVolume id) fun s v => s.attachmentsOn id = v.attachments := by
  intro s v s' h
  obtain ⟨rfl, stored, status, hstored, rfl⟩ := getVolume_ok h
  exact ⟨rfl, attachmentsOn_of_some (v := stored) hstored⟩

theorem reads_getFlavor (id : String) :
    Reads (.getFlavor id) fun s flavor => s.flavors.find? (·.id = id) = some flavor := by
  intro s flavor s' h
  obtain ⟨hfind, rfl⟩ := unchanged_ok h
  refine ⟨rfl, ?_⟩
  cases hflavor : s'.flavors.find? (·.id = id) with
  | none =>
    rw [hflavor] at hfind
    cases hfind
  | some found =>
    rw [hflavor] at hfind
    cases hfind
    exact hflavor

theorem reads_listAttachments (id : String) :
    Reads (.listAttachments id) fun s attachments =>
      attachments = (s.attachmentsTo id).mergeSort fun a b => a.device ≤ b.device := by
  intro s attachments s' h
  obtain ⟨server, -, h⟩ := find_bind_ok h
  obtain ⟨rfl, rfl⟩ := Prod.mk.inj (Except.ok.inj h)
  exact ⟨rfl, rfl⟩

end Resources

open Resources

/-! ## Only free letters are asked for -/

variable {s s' : Resources} {settings : Settings} {command : Command} {vmId diskId : String}

/-- The world in which a command only attaches its own disk, unattached, under a free
    letter. Before any call other clients may interfere, and any call may be refused. -/
def lettering (settings : Settings) (command : Command) : World Call Call.Answer Resources where
  permits
    | .attachVolume vmId diskId device, s =>
      command.Makes (.attachVolume vmId diskId device) ∧ s.attachmentsOn diskId = [] ∧
        ∃ letter, device = Device.path letter ∧ s.LetterFree settings vmId letter
    | _, _ => True
  leads c s reply s' := ∃ between, s.Disturbs between ∧
    ((reply.outcome, s') = between.serve c ∨ (∃ e, reply.outcome = .error e) ∧ s' = between)

theorem lettering_permits {c : Call} (hc : ¬ c.Attaches) (s : Resources) :
    (lettering settings command).permits c s := by
  cases c <;> first | trivial | exact absurd trivial hc

/-- A call that is in order stays so. -/
theorem Resources.Disturbs.permits {c : Call} (h : s.Disturbs s')
    (hc : (lettering settings command).permits c s) :
    (lettering settings command).permits c s' := by
  cases c with
  | attachVolume vmId diskId device =>
    obtain ⟨hmakes, hfree, letter, hdevice, hletter⟩ := hc
    exact ⟨hmakes, h.attachmentsOn_eq_nil hfree, letter, hdevice, h.letterFree hletter⟩
  | _ => trivial

/-- So it does not matter to a command when other clients interfere. -/
theorem Resources.Disturbs.ensures {α : Type} {p : Action α} (h : s.Disturbs s')
    (hp : p.Ensures (lettering settings command) (fun _ _ => True) s) :
    p.Ensures (lettering settings command) (fun _ _ => True) s' := by
  induction p generalizing s s' with
  | done a => trivial
  | call c next ih =>
    refine ⟨h.permits hp.1, ?_⟩
    rintro reply s'' ⟨between, hbetween, hs''⟩
    exact hp.2 reply s'' ⟨between, h.trans hbetween, hs''⟩
  | sleep ms next ih => exact ih h hp

theorem letters_of_avoids {α : Type} {p : Operation α} (hp : Operation.Avoids Call.Attaches p)
    (s : Resources) : p.run.Ensures (lettering settings command) (fun _ _ => True) s :=
  hp.ensures (I := fun _ => True) (fun _ s _ hc => ⟨lettering_permits hc s, fun _ _ _ => trivial⟩)
    (fun _ _ _ => trivial) trivial

theorem letters_bind {α β : Type} {p : Operation α} {f : α → Operation β}
    (hp : Operation.Avoids Call.Attaches p)
    (hf : ∀ a s, (f a).run.Ensures (lettering settings command) (fun _ _ => True) s) :
    (p >>= f).run.Ensures (lettering settings command) (fun _ _ => True) s := by
  refine Operation.ensures_bind.2 ((letters_of_avoids hp s).mono fun r s' _ => ?_)
  cases r with
  | ok a => exact hf a s'
  | error e => trivial

/-- What is read is true when it is read, and only other clients have acted since. -/
theorem letters_read {β : Type} {c : Call} {P : Resources → c.Answer → Prop} (hread : Reads c P)
    (hc : ¬ c.Attaches) {fault : CloudError → OperationError} {f : c.Answer → Operation β}
    {Q : Except OperationError β → Resources → Prop} (herror : ∀ e s', Q (.error e) s')
    (hf : ∀ a s', s.Disturbs s' → P s' a →
      (f a).run.Ensures (lettering settings command) Q s') :
    (Operation.ofOutcome fault (.perform c) >>= f).run.Ensures (lettering settings command) Q
      s := by
  refine Operation.ensures_bind.2 (Operation.ensures_ofOutcome.2 ⟨lettering_permits hc s, ?_⟩)
  rintro ⟨took, outcome⟩ s' ⟨between, hbetween, hs'⟩
  cases outcome with
  | error e => exact herror _ _
  | ok a =>
    rcases hs' with hserved | ⟨⟨e, ⟨⟩⟩, -⟩
    obtain ⟨rfl, ha⟩ := hread _ _ _ (answer_of_serve_ok hserved.symm)
    exact hf a _ hbetween ha

namespace Lifecycle

open Operation

/-- The letter that is chosen is free when it is. -/
def Chooses (settings : Settings) (vmId : String) (s : Resources) :
    Except OperationError String → Resources → Prop
  | .ok device, s' =>
    s.Disturbs s' ∧ ∃ letter, device = Device.path letter ∧ s'.LetterFree settings vmId letter
  | .error _, _ => True

theorem nextDevicePath_letters :
    (nextDevicePath settings vmId).run.Ensures (lettering settings command)
      (Chooses settings vmId s) s := by
  refine letters_read (reads_getServer vmId) id (fun _ _ => trivial) fun server s₁ h₁ hserver => ?_
  refine letters_read (reads_getFlavor server.flavorId) id (fun _ _ => trivial)
    fun flavor s₂ h₂ hflavor => ?_
  refine letters_read (reads_listAttachments vmId) id (fun _ _ => trivial)
    fun attachments s₃ h₃ hattachments => ?_
  subst hattachments
  split
  · rename_i letter hletter
    obtain ⟨hrange, -⟩ := Device.nextLetter?_fresh hletter
    refine ⟨h₁.trans (h₂.trans h₃), letter, rfl, ⟨flavor, fun id hid => ?_,
      Device.mem_lettersFrom_iff.1 hrange⟩, fun a ha => ?_⟩
    · -- The server still has the flavor that was looked up.
      have hid := (h₂.trans h₃).flavorIdOf? hid
      rw [hserver] at hid
      rw [h₃.flavors, ← Option.some.inj hid]
      exact hflavor
    · exact Device.nextLetter?_unoccupied hletter
        (List.mem_map_of_mem (List.mem_mergeSort.2 ha))
  · trivial

theorem attachFree_letters (hfree : s.attachmentsOn diskId = [])
    (hmakes : ∀ device, command.Makes (.attachVolume vmId diskId device)) :
    (attachFree settings vmId diskId).run.Ensures (lettering settings command)
      (fun _ _ => True) s := by
  refine Operation.ensures_bind.2 (nextDevicePath_letters.mono fun r s₁ hr => ?_)
  cases r with
  | error e => trivial
  | ok device =>
  obtain ⟨h₁, letter, rfl, hletter⟩ := hr
  refine Operation.ensures_bind.2 (ensures_ofOutcome.2 (ensures_repeated
    (I := fun s => s.attachmentsOn diskId = [] ∧ s.LetterFree settings vmId letter) ?_ ?_ ?_ _
    ⟨h₁.attachmentsOn_eq_nil hfree, hletter⟩))
  · exact fun s ⟨hfree, hletter⟩ => ⟨hmakes _, hfree, letter, rfl, hletter⟩
  · exact fun s took a s' _ _ => letters_of_avoids (avoids_awaitVolume id _ _) _
  · -- A try that fails attaches nothing, so the letter is still free.
    rintro s took e s' ⟨hfree, hletter⟩ ⟨between, hbetween, hs'⟩
    obtain rfl : s' = between := by
      rcases hs' with hserved | ⟨-, rfl⟩
      · exact eq_of_serve_error hserved.symm
      · rfl
    exact ⟨trivial, fun _ => ⟨hbetween.attachmentsOn_eq_nil hfree, hbetween.letterFree hletter⟩⟩

theorem attachUnlessAttached_letters
    (hmakes : ∀ device, command.Makes (.attachVolume vmId diskId device)) (s : Resources) :
    (attachUnlessAttached settings vmId diskId).run.Ensures (lettering settings command)
      (fun _ _ => True) s := by
  refine letters_bind (avoids_ask id _) fun _ s => letters_bind (avoids_ask id _) fun _ s => ?_
  refine letters_read (reads_getVolume diskId) id (fun _ _ => trivial) fun volume s h hvolume => ?_
  split
  · trivial
  · trivial
  · rename_i hother hsame
    split
    · trivial
    · have hfree := hvolume.trans (attachments_eq_nil hother hsame)
      refine Operation.ensures_bind.2 ((attachFree_letters hfree hmakes).mono fun r s _ => ?_)
      cases r <;> trivial

theorem attachDisk_letters (s : Resources) :
    (attachDisk settings vmId diskId).run.Ensures
      (lettering settings (.attachDisk vmId diskId)) (fun _ _ => True) s := by
  have hmakes (device : String) :
      (Command.attachDisk vmId diskId).Makes (.attachVolume vmId diskId device) := ⟨rfl, rfl⟩
  refine Operation.ensures_bind.2
    ((attachUnlessAttached_letters hmakes s).mono fun r s _ => ?_)
  cases r <;> trivial

theorem attachDiskWithHint_letters (s : Resources) :
    (attachDiskWithHint settings vmId diskId).run.Ensures
      (lettering settings (.attachDiskWithHint vmId diskId)) (fun _ _ => True) s := by
  have hmakes (device : String) :
      (Command.attachDiskWithHint vmId diskId).Makes (.attachVolume vmId diskId device) :=
    ⟨rfl, rfl⟩
  refine Operation.ensures_bind.2
    ((attachUnlessAttached_letters hmakes s).mono fun r s _ => ?_)
  cases r with
  | error e => trivial
  | ok device =>
    cases device with
    | some device => trivial
    | none =>
      refine letters_bind (avoids_ask id _) fun _ s => ?_
      refine letters_bind (avoids_askFor id _ _) fun volume s => ?_
      split <;> trivial

theorem Command.letters (settings : Settings) (chance : Chance) (c : Command) (s : Resources) :
    (c.operation settings chance).run.Ensures (lettering settings c) (fun _ _ => True) s := by
  cases hc : c.attachesDisk with
  | false => exact letters_of_avoids (Command.avoids_attaches settings chance hc) s
  | true =>
    cases c with
    | attachDisk vmId diskId => exact attachDisk_letters s
    | attachDiskWithHint vmId diskId => exact attachDiskWithHint_letters s
    | _ => cases hc

end Lifecycle

/-! ## Moments -/

/-- What another client does only disturbs. -/
theorem Interference.disturbs (i : Interference) {a : i.call.Answer}
    (h : Resources.answer i.call s = .ok (a, s')) : s.Disturbs s' := by
  have hloosens : s.Loosens s' := by
    refine answer_loosens (not_attaches_call i) (fun r hr => ?_) h
    cases i <;> cases hr
  refine hloosens.disturbs fun id hid => ?_
  cases i with
  | detachVolume serverId volumeId =>
    have h : s.detachVolume serverId volumeId = .ok (a, s') := h
    obtain ⟨v, -, h⟩ := find_bind_ok h
    cases h
    exact hid
  | deleteVolume volumeId =>
    have h : s.deleteVolume volumeId = .ok (a, s') := h
    obtain ⟨-, -, h⟩ := find_bind_ok h
    cases h
    exact hid
  | deleteServer serverId =>
    have h : s.deleteServer serverId = .ok (a, s') := h
    obtain ⟨-, -, h⟩ := find_bind_ok h
    cases h
    rw [flavorIdOf?_eq_none_iff, Table.get?_erase]
    split
    · rfl
    · exact flavorIdOf?_eq_none_iff.1 hid

/-- What a cloud answers, it answers from its resources, or it refuses. -/
theorem Cloud.answer_cases (c : Call) (cloud : Cloud) :
    ((cloud.answer c).1, (cloud.answer c).2.resources) = cloud.resources.serve c ∨
      (∃ e, (cloud.answer c).1 = .error e) ∧ (cloud.answer c).2.resources = cloud.resources := by
  cases hanswer : cloud.answer c with
  | mk r cloud' =>
    cases r with
    | error e => exact .inr ⟨⟨e, rfl⟩, Cloud.answer_resources_of_error hanswer⟩
    | ok a => exact .inl (Resources.serve_of_ok (Cloud.answer_ok hanswer)).symm

/-- What holds of the resources as they are and of all that a call may leave, holds after the
    call, whether it is refused or not. -/
theorem Cloud.answer_resources {P : Resources → Prop} (c : Call) (cloud : Cloud)
    (hsame : P cloud.resources)
    (hok : ∀ a s', Resources.answer c cloud.resources = .ok (a, s') → P s') :
    P (cloud.answer c).2.resources := by
  cases hanswer : cloud.answer c with
  | mk r cloud' =>
    cases r with
    | error e => exact Cloud.answer_resources_of_error hanswer ▸ hsame
    | ok a => exact hok a _ (Cloud.answer_ok hanswer)

namespace Moment

/-- The command under way only asks for free letters. -/
def Careful (settings : Settings) (m : Moment) : Prop :=
  ∀ (c : Command) p, m.running = some ⟨c, p⟩ →
    p.Ensures (lettering settings c) (fun _ _ => True) m.cloud.resources

theorem Careful.of_disturbs {m : Moment} (h : m.Careful settings) {cloud : Cloud}
    (hcloud : m.cloud.resources.Disturbs cloud.resources) :
    Careful settings { m with cloud := cloud } :=
  fun c p hp => hcloud.ensures (h c p hp)

theorem disturbs_interferes (cloud : Cloud) (i : Interference) :
    cloud.resources.Disturbs (cloud.answer i.call).2.resources :=
  Cloud.answer_resources i.call cloud (.refl _) fun _ _ h => i.disturbs h

theorem Step.careful {m m' : Moment} (hstep : Step settings m m') (h : m.Careful settings) :
    m'.Careful settings := by
  cases hstep with
  | starts c chance cloud =>
    rintro _ _ ⟨⟩
    exact Command.letters settings chance c _
  | ends c r cloud => exact nofun
  | sleeps c ms next cloud =>
    rintro _ _ ⟨⟩
    exact h c (.sleep ms next) rfl
  | answers c call next took cloud =>
    rintro _ _ ⟨⟩
    exact (h c _ rfl).2 _ _ ⟨_, .refl _, Cloud.answer_cases call cloud⟩
  | refuses c call next took e cloud =>
    rintro _ _ ⟨⟩
    exact (h c _ rfl).2 _ _ ⟨_, .refl _, .inr ⟨⟨e, rfl⟩, rfl⟩⟩
  | interferes m i => exact h.of_disturbs (disturbs_interferes m.cloud i)
  | injects m operation i => exact h.of_disturbs (.refl _)
  | pins m volumeId status =>
    exact h.of_disturbs ⟨rfl, fun _ => List.Sublist.refl _, fun _ => .inl rfl⟩
  | reports m volumeId device =>
    exact h.of_disturbs ⟨rfl, fun _ => List.Sublist.refl _, fun _ => .inl rfl⟩

theorem careful_of_reachable {cloud : Cloud} {m : Moment}
    (hm : Relation.ReflTransGen (Step settings) ⟨none, cloud⟩ m) : m.Careful settings := by
  induction hm with
  | refl => exact nofun
  | tail _ hstep ih => exact hstep.careful ih

end Moment

end CloudProvider
