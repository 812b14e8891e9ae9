import CloudProvider.Proofs.Confirmation
import CloudProvider.Proofs.Sizes

/-!
# Resizing

A disk is only ever resized while nothing is attached to it, and then it grows. Its size is
read some calls before it is extended, but other clients only take attachments and volumes
away in between, so what was read still holds, or the disk is gone.

* `sharing`: the world in which volumes are only extended when that makes them grow, while
  other clients interfere;
* `Resized`: what becomes of the volumes while a disk is resized (`resizeDisk_shares`);
* `Command.shares`: every operation keeps to that world.
-/

namespace CloudProvider

open Program Lifecycle Resources

variable {s s' : Resources} {settings : Settings} {deleted : String → Prop}

/-- Whether a call extends a volume. -/
def Call.Extends : Call → Prop
  | .extendVolume _ _ => True
  | _ => False

/-! ## Volumes are only extended to grow -/

/-- Whether a call, if it is to extend a volume, extends one that nothing is attached to, and
    to a size that is no less. -/
def Call.Grows : Call → Resources → Prop
  | .extendVolume id size, s =>
    s.attachmentsOn id = [] ∧ ∀ old, s.sizeOf? id = some old → old ≤ size
  | _, _ => True

theorem Call.grows_of_not_extends {c : Call} (hc : ¬ c.Extends) (s : Resources) : c.Grows s := by
  cases c <;> first | trivial | exact absurd trivial hc

/-- A call that is in order stays so. -/
theorem Resources.Erodes.grows {c : Call} (h : s.Erodes deleted s') (hc : c.Grows s) :
    c.Grows s' := by
  cases c with
  | extendVolume id size =>
    obtain ⟨hdetached, hsize⟩ := hc
    exact ⟨h.attachmentsOn_eq_nil hdetached, fun old hold => hsize old (h.sizeOf?_eq hold)⟩
  | _ => trivial

theorem Interference.grows_call (i : Interference) (s : Resources) : i.call.Grows s := by
  cases i <;> trivial

/-- The events of a program so far, and resources that others use too. -/
abbrev Shared := List (Event Call Call.Answer) × Resources

/-- The world in which volumes are only extended to grow. Before any call other clients may
    interfere, and any call may be refused. -/
def sharing (deleted : String → Prop) : World Call Call.Answer Shared where
  permits c x := c.Grows x.2
  leads c x reply x' := x'.1 = x.1 ++ [.called c reply] ∧
    ∃ between, x.2.Erodes deleted between ∧
      ((reply.outcome, x'.2) = between.serve c ∨
        (∃ e, reply.outcome = .error e) ∧ x'.2 = between)
  sleeps ms x := (x.1 ++ [.slept ms], x.2)

section

variable {c : Call} {x x' : Shared}

/-- What fails has changed nothing. -/
theorem sharing_error {took : Nat} {e : CloudError}
    (h : (sharing deleted).leads c x ⟨took, .error e⟩ x') :
    x'.1 = x.1 ++ [.called c ⟨took, .error e⟩] ∧ x.2.Erodes deleted x'.2 := by
  obtain ⟨hevents, between, hbetween, hserved | ⟨-, rfl⟩⟩ := h
  · exact ⟨hevents, eq_of_serve_error hserved.symm ▸ hbetween⟩
  · exact ⟨hevents, hbetween⟩

/-- What succeeds is answered from what other clients have left. -/
theorem sharing_ok {took : Nat} {a : c.Answer}
    (h : (sharing deleted).leads c x ⟨took, .ok a⟩ x') :
    x'.1 = x.1 ++ [.called c ⟨took, .ok a⟩] ∧
      ∃ between, x.2.Erodes deleted between ∧
        Resources.answer c between = .ok (a, x'.2) := by
  obtain ⟨hevents, between, hbetween, hserved | ⟨⟨e, ⟨⟩⟩, -⟩⟩ := h
  exact ⟨hevents, between, hbetween, answer_of_serve_ok hserved.symm⟩

/-- What is read is true when it is read. -/
theorem sharing_read {P : Resources → c.Answer → Prop} (hread : Reads c P) {reply : Reply c.Answer}
    (h : (sharing deleted).leads c x reply x') :
    x'.1 = x.1 ++ [.called c reply] ∧ x.2.Erodes deleted x'.2 ∧
      ∀ a, reply.outcome = .ok a → P x'.2 a := by
  obtain ⟨took, outcome⟩ := reply
  cases outcome with
  | error e =>
    obtain ⟨hevents, herodes⟩ := sharing_error h
    exact ⟨hevents, herodes, nofun⟩
  | ok a =>
    obtain ⟨hevents, between, hbetween, hanswer⟩ := sharing_ok h
    obtain ⟨heq, ha⟩ := hread _ _ _ hanswer
    rw [heq]
    refine ⟨hevents, hbetween, ?_⟩
    rintro _ ⟨⟩
    exact ha

end

/-! ## One disk is resized -/

/-- What becomes of the volumes while one of them is resized that had a size. -/
structure Resized (deleted : String → Prop) (diskId : String) (old sizeGib : UInt32)
    (events : List (Event Call Call.Answer)) (r : Except OperationError Unit)
    (s s' : Resources) : Prop where
  /-- The volume has its old size or the new one, if no other client deleted it. -/
  size : s'.Sized deleted diskId (some old) ∨ s'.Sized deleted diskId (some sizeGib)
  grows : ∀ size, s'.sizeOf? diskId = some size → old ≤ size
  succeeds : r = .ok () → s'.Sized deleted diskId (some sizeGib)
  /-- If an attachment was seen, there was no call to extend anything. -/
  detached : ∀ took v, .called (.getVolume diskId) ⟨took, .ok v⟩ ∈ events → v.attachments ≠ [] →
    ∀ c reply, .called c reply ∈ events → ¬ c.Extends
  /-- At most one call changed anything: one to extend the volume to the new size. -/
  once : events.filter Event.changes = [] ∨
    ∃ took, events.filter Event.changes = [.called (.extendVolume diskId sizeGib) ⟨took, .ok ()⟩]
  others : ∀ id, id ≠ diskId → s'.Sized deleted id (s.sizeOf? id)

/-- While a disk is resized: nothing is attached to it, nor was when it was looked at. It has
    some size, and every other volume has its own, unless another client deleted it. -/
structure Resizing (deleted : String → Prop) (diskId : String) (s : Resources) (size : UInt32)
    (changes events : List (Event Call Call.Answer)) (s' : Resources) : Prop where
  changes : events.filter Event.changes = changes
  seen : ∀ took v, .called (.getVolume diskId) ⟨took, .ok v⟩ ∈ events → v.attachments = []
  detached : s'.attachmentsOn diskId = []
  size : s'.Sized deleted diskId (some size)
  others : ∀ id, id ≠ diskId → s'.Sized deleted id (s.sizeOf? id)

section

variable {diskId : String} {old sizeGib size : UInt32} {r : Except OperationError Unit}
  {events changes : List (Event Call Call.Answer)} {s'' : Resources}

namespace Resized

/-- Nothing is resized. -/
theorem of_untouched (hu : Untouched events) (h : s.Erodes deleted s')
    (hold : s.sizeOf? diskId = some old) (hr : r = .ok () → old = sizeGib) :
    Resized deleted diskId old sizeGib events r s s' where
  size := .inl (hold ▸ h.sizes diskId)
  grows size hsize := by
    cases hold.symm.trans (h.sizeOf?_eq hsize)
    exact Nat.le_refl _
  succeeds hok := hr hok ▸ hold ▸ h.sizes diskId
  detached _ _ _ _ c reply hmem hextends := by
    have hmutates := hu c reply hmem
    cases c <;> first | exact hextends | cases hmutates
  once := .inl hu.filter_changes
  others id _ := h.sizes id

/-- What other clients do afterwards changes nothing of this. -/
theorem erodes (h : Resized deleted diskId old sizeGib events r s s')
    (h' : s'.Erodes deleted s'') : Resized deleted diskId old sizeGib events r s s'' where
  size := h.size.imp (·.erodes h') (·.erodes h')
  grows size hsize := h.grows size (h'.sizeOf?_eq hsize)
  succeeds hr := (h.succeeds hr).erodes h'
  detached := h.detached
  once := h.once
  others id hid := (h.others id hid).erodes h'

end Resized

namespace Resizing

theorem erodes (h : Resizing deleted diskId s size changes events s')
    (h' : s'.Erodes deleted s'') : Resizing deleted diskId s size changes events s'' where
  changes := h.changes
  seen := h.seen
  detached := h'.attachmentsOn_eq_nil h.detached
  size := h.size.erodes h'
  others id hid := (h.others id hid).erodes h'

/-- Something happens that changes nothing. -/
theorem append (h : Resizing deleted diskId s size changes events s')
    {event : Event Call Call.Answer} (hchanges : event.changes = false)
    (hseen : ∀ took v, event = .called (.getVolume diskId) ⟨took, .ok v⟩ → v.attachments = []) :
    Resizing deleted diskId s size changes (events ++ [event]) s' where
  changes := by
    rw [List.filter_append, h.changes, List.filter_singleton, hchanges]
    exact List.append_nil _
  seen took v hmem := by
    rcases List.mem_append.1 hmem with hmem | hmem
    · exact h.seen took v hmem
    · exact hseen took v (List.mem_singleton.1 hmem).symm
  detached := h.detached
  size := h.size
  others := h.others

theorem slept (h : Resizing deleted diskId s size changes events s') (ms : Nat) :
    Resizing deleted diskId s size changes (events ++ [.slept ms]) s' := h.append rfl nofun

variable {x x' : Shared} {took : Nat}

/-- The disk is looked at again. -/
theorem read (h : Resizing deleted diskId s size changes x.1 x.2) {reply : Reply Volume}
    (hl : (sharing deleted).leads (.getVolume diskId) x reply x') :
    Resizing deleted diskId s size changes x'.1 x'.2 := by
  obtain ⟨hevents, herodes, hread⟩ := sharing_read (reads_getVolume diskId) hl
  have h' := h.erodes herodes
  rw [hevents]
  refine h'.append ?_ ?_
  · obtain ⟨took, outcome⟩ := reply
    cases outcome <;> rfl
  · rintro took v ⟨⟩
    rw [← hread v rfl]
    exact h'.detached

/-- A call fails to extend the disk. -/
theorem refused (h : Resizing deleted diskId s size changes x.1 x.2) {e : CloudError}
    (hl : (sharing deleted).leads (.extendVolume diskId sizeGib) x ⟨took, .error e⟩ x') :
    Resizing deleted diskId s size changes x'.1 x'.2 := by
  obtain ⟨hevents, herodes⟩ := sharing_error hl
  rw [hevents]
  exact (h.erodes herodes).append rfl nofun

/-- The disk is extended. -/
theorem extended (h : Resizing deleted diskId s size [] x.1 x.2)
    (hl : (sharing deleted).leads (.extendVolume diskId sizeGib) x ⟨took, .ok ()⟩ x') :
    Resizing deleted diskId s sizeGib [.called (.extendVolume diskId sizeGib) ⟨took, .ok ()⟩]
      x'.1 x'.2 := by
  obtain ⟨hevents, between, hbetween, hanswer⟩ := sharing_ok hl
  have h' := h.erodes hbetween
  obtain ⟨v, hv, hx'⟩ := extendVolume_ok hanswer
  have hvolumes := congrArg Resources.volumes hx'
  refine ⟨?_, ?_, ?_, .inl ?_, fun id hid => ?_⟩
  · rw [hevents, List.filter_append, h'.changes]
    rfl
  · intro took v hmem
    rw [hevents] at hmem
    rcases List.mem_append.1 hmem with hmem | hmem
    · exact h'.seen took v hmem
    · cases List.mem_singleton.1 hmem
  · rw [attachmentsOn_insert hvolumes, if_pos rfl, ← attachmentsOn_of_some hv, h'.detached]
  · rw [sizeOf?_insert hvolumes, if_pos rfl]
  · rw [Sized, sizeOf?_insert hvolumes, if_neg hid]
    exact h'.others id hid

/-- The disk may be extended to more than it has. -/
theorem grows (h : Resizing deleted diskId s size changes events s') (hle : size ≤ sizeGib) :
    (Call.extendVolume diskId sizeGib).Grows s' := by
  refine ⟨h.detached, fun old hold => ?_⟩
  cases h.size.eq hold
  exact hle

/-- The disk has not been extended, and is not reported to be. -/
theorem unextended (h : Resizing deleted diskId s old [] events s') (hr : r ≠ .ok ()) :
    Resized deleted diskId old sizeGib events r s s' where
  size := .inl h.size
  grows size hsize := by
    cases h.size.eq hsize
    exact Nat.le_refl _
  succeeds hok := absurd hok hr
  detached took v hmem hattached := absurd (h.seen took v hmem) hattached
  once := .inl h.changes
  others := h.others

/-- The disk has been extended, whatever is reported. -/
theorem resized
    (h : Resizing deleted diskId s sizeGib
      [.called (.extendVolume diskId sizeGib) ⟨took, .ok ()⟩] events s')
    (hle : old ≤ sizeGib) : Resized deleted diskId old sizeGib events r s s' where
  size := .inr h.size
  grows size hsize := by
    cases h.size.eq hsize
    exact hle
  succeeds _ := h.size
  detached took v hmem hattached := absurd (h.seen took v hmem) hattached
  once := .inr ⟨took, h.changes⟩
  others := h.others

end Resizing

end

namespace Lifecycle

open Operation

variable {diskId : String} {old sizeGib : UInt32}

/-- The disk is extended, or it is not, and waited for. -/
theorem extend_shares {context : String} {x : Shared}
    (h : Resizing deleted diskId s old [] x.1 x.2) (hle : old ≤ sizeGib) :
    (do
      askRepeatedly settings "extend_volume" (.extendVolume diskId sizeGib) context
      awaitVolume settings diskId .available : Operation Unit).run.Ensures (sharing deleted)
        (fun r x => Resized deleted diskId old sizeGib x.1 r s x.2) x := by
  refine Operation.ensures_bind.2 (ensures_ofOutcome.2 ?_)
  refine ensures_repeated (c := Call.extendVolume diskId sizeGib)
    (I := fun x : Shared => Resizing deleted diskId s old [] x.1 x.2) ?_ ?_ ?_ _ h
  · exact fun x hx => hx.grows hle
  · intro x took a x' hx hl
    have hextended := hx.extended hl
    refine ensures_ofOutcome.2 (Wait.ensures_awaitStatus (I := fun x : Shared =>
      Resizing deleted diskId s sizeGib
        [.called (.extendVolume diskId sizeGib) ⟨took, .ok ()⟩] x.1 x.2) ?_ ?_ ?_ hextended)
    · exact fun _ _ => trivial
    · exact fun x reply x' hx hl _ => (hx.read hl).resized hle
    · exact fun x reply x' hx hl _ =>
        ⟨fun _ _ => (hx.read hl).resized hle, fun ms => (hx.read hl).slept ms⟩
  · intro x took e x' hx hl
    have hrefused := hx.refused hl
    exact ⟨hrefused.unextended nofun, fun _ => hrefused.slept _⟩

theorem resizeDisk_shares (diskId : String) (sizeGib : UInt32) (s : Resources) :
    (resizeDisk settings diskId sizeGib).run.Ensures (sharing deleted)
      (fun r x => ∀ old, s.sizeOf? diskId = some old →
        Resized deleted diskId old sizeGib x.1 r s x.2) ([], s) := by
  refine Operation.ensures_bind.2 (ensures_ask.2 ⟨trivial, fun opened x₁ hl => ?_⟩)
  obtain ⟨hevents₁, herodes₁, -⟩ := sharing_read (reads_openService .volume) hl
  have hu₁ : Untouched x₁.1 := hevents₁ ▸ untouched_singleton rfl opened
  obtain ⟨took, opened⟩ := opened
  cases opened with
  | error e => exact fun old hold => .of_untouched hu₁ herodes₁ hold nofun
  | ok _ =>
  refine Operation.ensures_bind.2 (ensures_askFor.2 ⟨trivial, fun fetched x₂ hl => ?_⟩)
  obtain ⟨hevents₂, herodes₂, hread⟩ :=
    sharing_read ((reads_getVolume diskId).and (reads_sizeOf? diskId)) hl
  have herodes : s.Erodes deleted x₂.2 := herodes₁.trans herodes₂
  have hu : Untouched x₂.1 := hevents₂ ▸ hu₁.append (untouched_singleton rfl fetched)
  obtain ⟨took, fetched⟩ := fetched
  cases fetched with
  | error e => exact fun old hold => .of_untouched hu herodes hold nofun
  | ok volume =>
  obtain ⟨hattachments, hsize⟩ := hread volume rfl
  have hwas {old : UInt32} (hold : s.sizeOf? diskId = some old) : old = volume.sizeGib :=
    Option.some.inj (hold.symm.trans (herodes.sizeOf?_eq hsize))
  show Program.Ensures _ _ _ _
  dsimp only
  split
  · exact fun old hold => .of_untouched hu herodes hold nofun
  rename_i hnil
  split
  · exact fun old hold => .of_untouched hu herodes hold nofun
  rename_i hsmaller
  split
  · rename_i hsame
    exact fun old hold => .of_untouched hu herodes hold fun _ => (hwas hold).trans hsame.symm
  · have hnil : volume.attachments = [] := by simpa using hnil
    have hresizing : Resizing deleted diskId s volume.sizeGib [] x₂.1 x₂.2 := by
      refine ⟨hu.filter_changes, ?_, hattachments.trans hnil, .inl hsize,
        fun id _ => herodes.sizes id⟩
      intro took v hmem
      rw [hevents₂, hevents₁] at hmem
      rcases List.mem_append.1 hmem with hmem | hmem
      · cases List.mem_singleton.1 hmem
      · cases List.mem_singleton.1 hmem
        exact hnil
    refine (extend_shares hresizing (UInt32.not_lt.1 hsmaller)).mono fun r x hx old hold => ?_
    exact hwas hold ▸ hx

/-- What extends nothing may be done at any time. -/
theorem shares_of_avoids {α : Type} {p : Operation α} (hp : Operation.Avoids Call.Extends p)
    (x : Shared) : p.run.Ensures (sharing deleted) (fun _ _ => True) x :=
  hp.ensures (I := fun _ => True)
    (fun c x _ hc => ⟨c.grows_of_not_extends hc x.2, fun _ _ _ => trivial⟩)
    (fun _ _ _ => trivial) trivial

theorem Command.makesNo_extends {c : Command}
    (hc : ∀ diskId sizeGib, c ≠ .resizeDisk diskId sizeGib) : c.MakesNo Call.Extends := by
  intro call hcall hextends
  cases call with
  | extendVolume id size =>
    cases c with
    | resizeDisk diskId sizeGib => exact hc _ _ rfl
    | _ => exact hcall
  | _ => exact hextends

theorem Command.shares (settings : Settings) (chance : Chance) (c : Command) (s : Resources) :
    (c.operation settings chance).run.Ensures (sharing deleted) (fun _ _ => True) ([], s) := by
  cases c with
  | resizeDisk diskId sizeGib =>
    exact (resizeDisk_shares diskId sizeGib s).mono fun _ _ _ => trivial
  | _ =>
    refine shares_of_avoids (Command.avoids settings chance (Command.makesNo_extends ?_)) _
    rintro diskId sizeGib ⟨⟩

end Lifecycle

end CloudProvider
