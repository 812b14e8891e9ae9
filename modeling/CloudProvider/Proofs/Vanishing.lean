import CloudProvider.Proofs.Deletion

/-!
# A disk that vanishes

While a disk is being deleted, another client may delete it too, at any point between two
calls. The look at the disk and every fetch of the wait take its absence for success. The
call that deletes it does not: if the other client comes between the look and this call, the
deletion fails, although nothing is left of the disk.

* `Rival`: when the other client comes; `Rival.backend`: a cloud that it uses too;
* `Rival.leads_backend`: what becomes of the resources in a call;
* `deleteDisk_vanishing`: how a deletion ends for every rival;
* `deleteDisk_trips_on_absence`: the one that makes it fail.
-/

namespace CloudProvider

open Program

/-- When another client deletes a disk: just before some of the calls, told by their number. -/
abbrev Rival := Nat → Bool

/-- The resources without a volume. -/
def Resources.withoutVolume (id : String) (s : Resources) : Resources :=
  { s with volumes := s.volumes.erase id }

theorem Resources.withoutVolume_eq_self {id : String} {s : Resources}
    (h : s.volumes.get? id = none) : s.withoutVolume id = s := by
  rw [withoutVolume, Table.erase_eq_self h]

theorem Resources.get?_withoutVolume (id : String) (s : Resources) :
    (s.withoutVolume id).volumes.get? id = none := Table.get?_erase_self _ _

namespace Rival

/-- A cloud that the other client uses too. Its state holds how many calls were made. -/
def backend (rival : Rival) (diskId : String) : Backend Call Call.Answer (Nat × Cloud) :=
  fun c _ (n, cloud) =>
    let cloud := if rival n then (cloud.answer (Interference.deleteVolume diskId).call).2 else cloud
    let (r, cloud) := cloud.answer c
    (⟨0, r⟩, n + 1, cloud)

/-- A calm cloud that holds some resources, at a call of some number. -/
structure At (n : Nat) (s : Resources) (x : Nat × Cloud) : Prop where
  number : x.1 = n
  resources : x.2.resources = s
  calm : x.2.Calm

variable {rival : Rival} {diskId : String} {n : Nat} {s : Resources} {x x' : Nat × Cloud}

/-- What the other client leaves. -/
theorem serve_deleteVolume_snd (s : Resources) :
    (s.serve (Interference.deleteVolume diskId).call).2 = s.withoutVolume diskId := by
  cases hv : s.volumes.get? diskId with
  | none =>
    rw [Resources.withoutVolume_eq_self hv]
    exact congrArg Prod.snd (Resources.serve_deleteVolume_none hv)
  | some v => exact congrArg Prod.snd (Resources.serve_deleteVolume hv)

/-- A call is served after the other client has come, if it comes. -/
theorem leads_backend (h : At n s x) {c : Call} {reply : Reply c.Answer}
    (hl : (Backend.world (rival.backend diskId)).leads c x reply x') :
    ∃ s', (if rival n then s.withoutVolume diskId else s).serve c = (reply.outcome, s') ∧
      At (n + 1) s' x' := by
  obtain ⟨n, cloud⟩ := x
  obtain ⟨rfl, rfl, hcalm⟩ := h
  obtain ⟨now, hx'⟩ := hl
  simp only [backend] at hx'
  cases hrival : rival n with
  | false =>
    obtain ⟨cloud', hanswer, hresources, hcalm'⟩ := hcalm.answer c
    simp only [hrival, hanswer, Bool.false_eq_true, if_false] at hx' ⊢
    obtain ⟨rfl, rfl⟩ := Prod.mk.inj hx'
    exact ⟨_, rfl, rfl, hresources, hcalm'⟩
  | true =>
    obtain ⟨raced, hraced, hresources, hcalm⟩ :=
      hcalm.answer (Interference.deleteVolume diskId).call
    obtain ⟨cloud', hanswer, hresources', hcalm'⟩ := hcalm.answer c
    simp only [hrival, hraced, hanswer, if_true] at hx' ⊢
    obtain ⟨rfl, rfl⟩ := Prod.mk.inj hx'
    rw [hresources, serve_deleteVolume_snd] at hresources' ⊢
    exact ⟨_, rfl, rfl, hresources', hcalm'⟩

/-- The other client comes between the look at a disk that is there and the call that deletes
    it. The calls before are those that open the service and look at the disk. -/
def Trips (rival : Rival) (s : Resources) (diskId : String) : Prop :=
  (s.volumes.get? diskId).isSome = true ∧ rival 0 = false ∧ rival 1 = false ∧ rival 2 = true

instance (rival : Rival) (s : Resources) (diskId : String) : Decidable (rival.Trips s diskId) :=
  inferInstanceAs (Decidable (_ ∧ _))

/-- The look at a disk finds what there was, or no disk. -/
theorem found_or_gone (rival : Rival) (s : Resources) (diskId : String) :
    let s₁ := if rival 0 then s.withoutVolume diskId else s
    (s.volumes.get? diskId).isSome = true ∧ rival 0 = false ∧ rival 1 = false ∨
      ¬ rival.Trips s diskId ∧
        (if rival 1 then s₁.withoutVolume diskId else s₁) = s.withoutVolume diskId := by
  intro s₁
  have htwice : (s.withoutVolume diskId).withoutVolume diskId = s.withoutVolume diskId :=
    Resources.withoutVolume_eq_self (s.get?_withoutVolume diskId)
  cases h₀ : rival 0 with
  | true => exact .inr ⟨fun h => Bool.false_ne_true (h.2.1.symm.trans h₀), by simp [s₁, h₀, htwice]⟩
  | false =>
    cases h₁ : rival 1 with
    | true =>
      exact .inr ⟨fun h => Bool.false_ne_true (h.2.2.1.symm.trans h₁), by simp [s₁, h₀]⟩
    | false =>
      cases hv : s.volumes.get? diskId with
      | some v => exact .inl ⟨rfl, rfl, rfl⟩
      | none =>
        refine .inr ⟨fun h => ?_, ?_⟩
        · rw [Trips, hv] at h
          exact Bool.false_ne_true h.1
        · rw [Resources.withoutVolume_eq_self hv]
          simp [s₁, h₀]

/-- Once the disk is absent, the other client changes nothing. -/
theorem leads_backend_absent (hs : s.volumes.get? diskId = none) (h : At n s x) {c : Call}
    {reply : Reply c.Answer} (hl : (Backend.world (rival.backend diskId)).leads c x reply x') :
    ∃ s', s.serve c = (reply.outcome, s') ∧ At (n + 1) s' x' := by
  have hserved := leads_backend h hl
  rwa [Resources.withoutVolume_eq_self hs, ite_self] at hserved

end Rival

namespace Lifecycle

open Operation Rival

variable {settings : Settings} {rival : Rival} {diskId : String} {n : Nat} {s : Resources}
  {x : Nat × Cloud}

/-- What a step of a deletion comes to: its result, and resources that the calm cloud holds. -/
def EndsWith (r : Except OperationError Unit) (s : Resources) :
    Except OperationError Unit → Nat × Cloud → Prop :=
  fun r' x => r' = r ∧ x.2.resources = s

/-- How the deletion of a disk is told to have failed that is absent by then. -/
def absentOnDelete (diskId : String) : OperationError :=
  .cloud ("Failed to delete volume '" ++ diskId ++ "'") (.notFound "volume" diskId)

/-- The wait for the end of a disk that is absent takes one fetch. -/
theorem ensures_awaitVolume_absent (hs : s.volumes.get? diskId = none) (h : At n s x) :
    (awaitVolume settings diskId .deleted).run.Ensures
      (Backend.world (rival.backend diskId)) (EndsWith (.ok ()) s) x := by
  have hfetch {x x' : Nat × Cloud} {reply : Reply (Call.getVolume diskId).Answer}
      (hx : ∃ n, At n s x)
      (hl : (Backend.world (rival.backend diskId)).leads (.getVolume diskId) x reply x') :
      reply.outcome = .error (.notFound "volume" diskId) ∧ x'.2.resources = s := by
    obtain ⟨n, hx⟩ := hx
    obtain ⟨s', hserve, hx'⟩ := leads_backend_absent hs hx hl
    rw [Resources.serve_getVolume_none hs] at hserve
    obtain ⟨houtcome, rfl⟩ := Prod.mk.inj hserve
    exact ⟨houtcome.symm, hx'.resources⟩
  refine ensures_ofOutcome.2 (Wait.ensures_awaitStatus (I := fun x => ∃ n, At n s x)
    (fun _ _ => trivial) ?_ ?_ ⟨n, h⟩)
  · intro x reply x' hx hl _
    exact ⟨rfl, (hfetch hx hl).2⟩
  · intro x reply x' hx hl hnot
    rw [(hfetch hx hl).1] at hnot
    cases hnot

/-- The deletion itself fails if the other client has come first. -/
theorem ensures_deleteVolume {v : Volume} (hv : s.volumes.get? diskId = some v) (h : At n s x) :
    (do
      ask (.deleteVolume diskId) ("Failed to delete volume '" ++ diskId ++ "'")
      awaitVolume settings diskId .deleted : Operation Unit).run.Ensures
        (Backend.world (rival.backend diskId))
        (EndsWith (if rival n then .error (absentOnDelete diskId) else .ok ())
          (s.withoutVolume diskId)) x := by
  refine Operation.ensures_bind.2 (ensures_ask.2 ⟨trivial, fun reply x' hl => ?_⟩)
  obtain ⟨s', hserve, hx'⟩ := leads_backend h hl
  have hgone := Resources.get?_withoutVolume diskId s
  cases hrival : rival n with
  | true =>
    rw [hrival, if_pos rfl, Resources.serve_deleteVolume_none hgone] at hserve
    obtain ⟨houtcome, rfl⟩ := Prod.mk.inj hserve
    rw [← houtcome]
    exact ⟨rfl, hx'.resources⟩
  | false =>
    rw [hrival, if_neg Bool.false_ne_true, Resources.serve_deleteVolume hv] at hserve
    obtain ⟨houtcome, rfl⟩ := Prod.mk.inj hserve
    rw [← houtcome]
    exact ensures_awaitVolume_absent hgone hx'

/-- A deletion that another client may get ahead of at any call. -/
theorem ensures_deleteDisk (hpinned : s.pinnedStatuses.get? diskId = none)
    (havailable : ∀ v, s.volumes.get? diskId = some v → v.status = .available) (h : At 0 s x) :
    (deleteDisk settings diskId).run.Ensures (Backend.world (rival.backend diskId))
      (EndsWith
        (if rival.Trips s diskId then .error (absentOnDelete diskId) else .ok ())
        (s.withoutVolume diskId)) x := by
  refine Operation.ensures_bind.2 (ensures_ask.2 ⟨trivial, fun reply x₁ hl => ?_⟩)
  obtain ⟨s₁, hopen, h₁⟩ := leads_backend h hl
  obtain ⟨hopened, rfl⟩ := Prod.mk.inj hopen
  rw [← hopened]
  refine ensures_attempt_bind.2 ⟨trivial, fun reply x₂ hl => ?_⟩
  obtain ⟨s₂, hlook, h₂⟩ := leads_backend h₁ hl
  obtain ⟨hstored, hfirst, hsecond⟩ | hgone := rival.found_or_gone s diskId
  · obtain ⟨v, hv⟩ := Option.isSome_iff_exists.1 hstored
    simp only [hfirst, hsecond, Bool.false_eq_true, if_false] at hlook
    rw [Resources.serve_getVolume hv hpinned] at hlook
    obtain ⟨houtcome, rfl⟩ := Prod.mk.inj hlook
    rw [← houtcome]
    simp only [havailable v hv, ne_eq, not_true_eq_false, if_false]
    have htrips : rival.Trips s diskId ↔ rival 2 = true := by
      simp only [Trips, hstored, hfirst, hsecond, true_and]
    simp only [htrips]
    exact ensures_deleteVolume hv h₂
  · rw [hgone.2, Resources.serve_getVolume_none (s.get?_withoutVolume diskId)] at hlook
    obtain ⟨houtcome, rfl⟩ := Prod.mk.inj hlook
    rw [← houtcome, if_neg hgone.1]
    exact ⟨rfl, h₂.resources⟩

/-- While a disk is deleted that is available or absent, another client may delete it before
    any of the calls. The disk is absent afterwards, and nothing else has changed. The deletion
    succeeds, unless the other client comes between the look at the disk and its deletion. -/
theorem deleteDisk_vanishing (settings : Settings) (diskId : String) (rival : Rival)
    {cloud : Cloud} (hcalm : cloud.Calm)
    (hpinned : cloud.resources.pinnedStatuses.get? diskId = none)
    (havailable : ∀ v, cloud.resources.volumes.get? diskId = some v → v.status = .available)
    (now : Nat) :
    let outcome := (deleteDisk settings diskId).run.run (rival.backend diskId) now (0, cloud)
    outcome.state.2.resources =
        { cloud.resources with volumes := cloud.resources.volumes.erase diskId } ∧
      outcome.result =
        if (cloud.resources.volumes.get? diskId).isSome = true ∧
            rival 0 = false ∧ rival 1 = false ∧ rival 2 = true then
          .error (.cloud ("Failed to delete volume '" ++ diskId ++ "'") (.notFound "volume" diskId))
        else .ok () := by
  intro outcome
  have hat : At 0 cloud.resources (0, cloud) := ⟨rfl, rfl, hcalm⟩
  have hensures : (deleteDisk settings diskId).run.Ensures (Backend.world (rival.backend diskId)) _
      (0, cloud) := ensures_deleteDisk hpinned havailable hat
  obtain ⟨hresult, hresources⟩ := hensures.of_run
  exact ⟨hresources, hresult⟩

/-- A calm cloud that holds nothing but an available disk. -/
def oneDiskCloud : Cloud := ({} : Cloud).seed (·.addVolume "disk" 10)

/-- Another client that comes just before the wait begins goes unnoticed. -/
theorem deleteDisk_vanishing_unnoticed :
    let rival : Rival := fun n => n = 3
    oneDiskCloud.Calm ∧ oneDiskCloud.resources.pinnedStatuses.get? "disk" = none ∧
      (oneDiskCloud.resources.volumes.get? "disk").isSome = true ∧
      ((deleteDisk {} "disk").run.run (rival.backend "disk") 0 (0, oneDiskCloud)).result =
        .ok () := by
  intro rival
  have hcalm : oneDiskCloud.Calm := ⟨rfl, rfl⟩
  have hpinned : oneDiskCloud.resources.pinnedStatuses.get? "disk" = none := rfl
  refine ⟨hcalm, hpinned, rfl, ?_⟩
  refine (deleteDisk_vanishing {} "disk" rival hcalm hpinned ?_ 0).2
  rintro v ⟨⟩
  rfl

/-- Another client that comes just before the deletion itself makes it fail, although the disk
    is absent then, which is all that was asked for. -/
theorem deleteDisk_trips_on_absence :
    let rival : Rival := fun n => n = 2
    let outcome := (deleteDisk {} "disk").run.run (rival.backend "disk") 0 (0, oneDiskCloud)
    oneDiskCloud.Calm ∧ oneDiskCloud.resources.pinnedStatuses = ∅ ∧
      (oneDiskCloud.resources.volumes.get? "disk").map (·.status) = some .available ∧
      outcome.result ≠ .ok () ∧ outcome.state.2.resources.volumes.get? "disk" = none := by
  refine ⟨⟨rfl, rfl⟩, rfl, rfl, ?_, rfl⟩
  rintro ⟨⟩

end Lifecycle

end CloudProvider
