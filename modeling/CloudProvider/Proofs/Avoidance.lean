import CloudProvider.Proofs.Attachment
import CloudProvider.Proofs.Composition

/-!
# Calls that are never made

An operation makes no calls but those it is composed of, whatever it is replied.

* `Operation.Avoids`: no run makes a call of some kind (`Avoids.ensures`);
* `Composed.avoids`: an operation avoids what it is not composed of;
* `Command.avoids`: it makes no calls but those it may make;
* `Command.avoids_attaches`: no operation attaches a volume but those that attach a
  disk.
-/

namespace CloudProvider

open Program

variable {α β : Type} {settings : Settings} {made avoid : Call → Prop} {c : Call}

namespace Program

theorem avoids_repeated (hc : ¬ avoid c) (ms more : Nat) :
    (repeated c ms more : Action _).Ensures (avoiding avoid) (fun _ _ => True) () :=
  ensures_repeated (I := fun _ => True) (fun _ _ => hc) (fun _ _ _ _ _ _ => trivial)
    (fun _ _ _ _ _ _ => ⟨trivial, fun _ => trivial⟩) more trivial

theorem avoids_awaitStatus {S : Type} [DecidableEq S] (hc : ¬ avoid c) (w : Wait)
    (resource : String) (text : S → String) (target : S)
    (status : Except CloudError c.Answer → Except CloudError S) :
    (w.awaitStatus resource text target c status).Ensures (avoiding avoid) (fun _ _ => True) () :=
  Wait.ensures_awaitStatus (I := fun _ => True) (fun _ _ => hc) (fun _ _ _ _ _ _ => trivial)
    (fun _ _ _ _ _ _ => ⟨fun _ _ => trivial, fun _ => trivial⟩) trivial

end Program

/-- What is composed of calls of one kind makes none of another. -/
theorem Composed.avoids {p : Action α} (h : Composed settings made p)
    (hmade : ∀ c, made c → ¬ avoid c) : p.Ensures (avoiding avoid) (fun _ _ => True) () := by
  induction h with
  | done a => trivial
  | bind _ _ ihp ihf => exact ensures_bind.2 (ihp.mono fun a _ _ => ihf a)
  | once hc _ => exact ⟨hmade _ hc, fun _ _ _ => trivial⟩
  | retried hc _ => exact avoids_repeated (hmade _ hc) _ _
  | awaited hc _ => exact avoids_awaitStatus (hmade _ hc) _ _ _ _ _

namespace Operation

/-- No call of some kind is made, whatever the replies. -/
def Avoids (avoid : Call → Prop) (p : Operation α) : Prop :=
  p.run.Ensures (avoiding avoid) (fun _ _ => True) ()

/-- An invariant of all calls that are not avoided holds in the end. -/
theorem Avoids.ensures {σ : Type} {W : World Call Call.Answer σ} {I : σ → Prop} {s : σ}
    {p : Operation α} (hp : Avoids avoid p)
    (hcall : ∀ c s, I s → ¬ avoid c →
      W.permits c s ∧ ∀ reply s', W.leads c s reply s' → I s')
    (hsleep : ∀ ms s, I s → I (W.sleeps ms s)) (hs : I s) :
    p.run.Ensures W (fun _ s' => I s') s := by
  have htransfer := hp.transfer (V := W) (R := fun _ s => I s) ?_ (fun ms _ s => hsleep ms s) hs
  · exact htransfer.mono fun _ _ ⟨_, h, _⟩ => h
  · intro c _ s hs hc
    obtain ⟨hpermits, hleads⟩ := hcall c s hs hc
    exact ⟨hpermits, fun reply s' hl => ⟨(), trivial, hleads reply s' hl⟩⟩

theorem avoids_ask (hc : ¬ avoid c) (context : String) : Avoids avoid (ask c context) :=
  ensures_ask.2 ⟨hc, fun _ _ _ => trivial⟩

theorem avoids_askFor (hc : ¬ avoid c) (kind id : String) : Avoids avoid (askFor c kind id) :=
  ensures_askFor.2 ⟨hc, fun _ _ _ => trivial⟩

end Operation

namespace Lifecycle

open Operation

variable {vmId diskId : String}

theorem avoids_awaitVolume (h : ¬ avoid (.getVolume diskId)) (settings : Settings)
    (target : VolumeStatus) : Avoids avoid (awaitVolume settings diskId target) := by
  have hcomposed : Composed settings (fun c => ¬ avoid c)
      (awaitVolume settings diskId target).run := composed_awaitVolume h target
  exact hcomposed.avoids fun _ => id

theorem avoids_nextDevicePath (hserver : ¬ avoid (.getServer vmId))
    (hflavor : ∀ id, ¬ avoid (.getFlavor id)) (hlist : ¬ avoid (.listAttachments vmId)) :
    Avoids avoid (nextDevicePath settings vmId) := by
  have hcomposed : Composed settings (fun c => ¬ avoid c) (nextDevicePath settings vmId).run :=
    composed_nextDevicePath hserver hflavor hlist
  exact hcomposed.avoids fun _ => id

namespace Command

/-- None of the calls of a command is of some kind. -/
def MakesNo (avoid : Call → Prop) (c : Command) : Prop := ∀ call, c.Makes call → ¬ avoid call

/-- Whatever it is replied, a command makes only the calls that it may make. -/
theorem avoids (settings : Settings) (chance : Chance) {c : Command} (h : c.MakesNo avoid) :
    Avoids avoid (c.operation settings chance) := (composed settings chance c).avoids h

/-- Whether a command is to attach a disk. -/
def attachesDisk : Command → Bool
  | attachDisk _ _ | attachDiskWithHint _ _ => true
  | _ => false

theorem makesNo_attaches {c : Command} (hc : c.attachesDisk = false) :
    c.MakesNo Call.Attaches := by
  intro call hcall hattaches
  cases call with
  | attachVolume serverId volumeId device =>
    cases c with
    | attachDisk | attachDiskWithHint => cases hc
    | _ => exact hcall
  | _ => exact hattaches

theorem avoids_attaches (settings : Settings) (chance : Chance) {c : Command}
    (hc : c.attachesDisk = false) : Avoids Call.Attaches (c.operation settings chance) :=
  avoids settings chance (makesNo_attaches hc)

end Command

end Lifecycle

end CloudProvider
