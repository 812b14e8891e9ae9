import CloudProvider.Proofs.Reattachment
import CloudProvider.Proofs.Timing

/-!
# What an undisturbed operation asks for

In a steady session the replies are those of the resources, so the resources determine not
only what an operation leaves but also which calls it makes. This holds of operations that
open no service but those for servers and volumes, whatever other services are unavailable.

* `Program.asked`, `Operation.asked`: the calls of a program that the resources serve;
* `Session.Ready`: a steady session with some resources in which these two services are
  available;
* `Session.Ready.run`: a run in it does what the resources answer, and asks for no more and
  no less, so nothing else matters to it (`Session.Ready.run_congr`).
-/

namespace CloudProvider

open Program

/-! ## The calls of a served program -/

namespace Program

variable {α β : Type}

/-- The calls of a program, every call of which the resources answer at once. -/
def asked : Action α → Resources → List Call
  | .done _, _ => []
  | .call c next, s => c :: (next ⟨0, (s.serve c).1⟩).asked (s.serve c).2
  | .sleep _ next, s => next.asked s

theorem asked_bind (p : Action α) (f : α → Action β) (s : Resources) :
    (p.bind f).asked s = p.asked s ++ (f (p.serve s).1).asked (p.serve s).2 := by
  induction p generalizing s with
  | done a => rfl
  | call c next ih => exact congrArg (c :: ·) (ih _ _)
  | sleep ms next ih => exact ih s

/-- A call that succeeds is made once. -/
theorem asked_repeated {c : Call} {s s' : Resources} {a : c.Answer}
    (h : s.serve c = (.ok a, s')) (ms more : Nat) :
    (repeated c ms more : Action _).asked s = [c] := by
  cases more with
  | zero => rfl
  | succ more =>
    rw [repeated, asked, h]
    rfl

/-- A program that avoids some calls does not ask for them. -/
theorem Ensures.asked {avoid : Call → Prop} {p : Action α} {Q : α → Unit → Prop}
    (h : p.Ensures (avoiding avoid) Q ()) (s : Resources) : ∀ c ∈ p.asked s, ¬ avoid c := by
  induction p generalizing s with
  | done a => exact fun _ hc => absurd hc List.not_mem_nil
  | call c next ih =>
    have hnext := h.2 ⟨0, (s.serve c).1⟩ () trivial
    exact List.forall_mem_cons.2 ⟨h.1, ih _ hnext _⟩
  | sleep ms next ih => exact ih h s

end Program

/-- A wait that is over at the first fetch makes no other. -/
theorem Wait.asked_awaitStatus {S : Type} [DecidableEq S] {w : Wait} {resource : String}
    {text : S → String} {target : S} {fetch : Call}
    {status : Except CloudError fetch.Answer → Except CloudError S} {s : Resources}
    {r : Except CloudError fetch.Answer} (h : s.serve fetch = (r, s)) (hr : status r = .ok target) :
    (w.awaitStatus resource text target fetch status : Action _).asked s = [fetch] := by
  unfold awaitStatus poll
  rw [Program.asked, h]
  simp [reached, hr, Program.asked]

namespace Operation

variable {α β : Type} {s s' : Resources} {c : Call}

/-- The calls of an operation, every call of which the resources answer at once. -/
def asked (p : Operation α) (s : Resources) : List Call := Program.asked p.run s

theorem asked_bind_ok {p : Operation α} {f : α → Operation β} {a : α}
    (h : p.serve s = (.ok a, s')) : (p >>= f).asked s = p.asked s ++ (f a).asked s' := by
  refine (Program.asked_bind _ _ _).trans ?_
  rw [show Program.serve p s = _ from h]
  rfl

theorem asked_ofOutcome {fault : CloudError → OperationError} {p : Action (Except CloudError α)} :
    (ofOutcome fault p).asked s = p.asked s :=
  (Program.asked_bind _ _ _).trans (List.append_nil _)

theorem asked_askRepeatedly {a : c.Answer} (h : s.serve c = (.ok a, s')) (settings : Settings)
    (policy context : String) : (askRepeatedly settings policy c context).asked s = [c] :=
  asked_ofOutcome.trans (Program.asked_repeated h _ _)

end Operation

theorem Lifecycle.asked_awaitVolume {s : Resources} {diskId : String} {v : Volume}
    (h : s.volumes.get? diskId = some v) (hpinned : s.pinnedStatuses.get? diskId = none)
    (settings : Settings) :
    (awaitVolume settings diskId v.status).asked s = [.getVolume diskId] :=
  Operation.asked_ofOutcome.trans
    (Wait.asked_awaitStatus (Resources.serve_getVolume h hpinned) rfl)

/-! ## Steady sessions -/

namespace Session

/-- A steady session with some resources, in which the services for servers and volumes are
    available. -/
structure Ready (r : Resources) (s : Session) : Prop where
  resources : s.cloud.resources = r
  steady : s.Steady
  compute : s.cloud.openService .compute = .ok ()
  volume : s.cloud.openService .volume = .ok ()

variable {r : Resources} {s : Session}

/-- A call in a ready session is answered by the resources, unless it opens another service. -/
theorem Ready.backend (h : s.Ready r) {c : Call} (hc : ¬ c.OpensOther) (now : Nat) :
    ∃ s', backend c now s = (⟨0, (r.serve c).1⟩, s') ∧ s'.Ready (r.serve c).2 := by
  obtain ⟨rfl, hs, hcompute, hvolume⟩ := h
  have hopen (service : Service) (hservice : c = .openService service) :
      s.cloud.openService service = .ok () := by
    subst hservice
    cases service with
    | compute => exact hcompute
    | volume => exact hvolume
    | _ => exact absurd ⟨by decide, by decide⟩ hc
  obtain ⟨s', hs', hresources, hsteady, hunavailable⟩ := backend_of_steady hs hopen now
  have hopens := Cloud.openService_congr hunavailable
  exact ⟨s', hs', hresources, hsteady, (hopens _).trans hcompute, (hopens _).trans hvolume⟩

/-- A program in a ready session does what the resources answer, and the calls are those it
    asks the resources for. -/
theorem Ready.run_program {α : Type} (h : s.Ready r) {p : Action α} {Q : α → Unit → Prop}
    (hp : p.Ensures (avoiding Call.OpensOther) Q ()) (now : Nat) :
    (p.run Session.backend now s).result = (p.serve r).1 ∧
      (p.run Session.backend now s).state.Ready (p.serve r).2 ∧
      calls (p.events Session.backend now s) = p.asked r := by
  induction p generalizing r s now with
  | done a => exact ⟨rfl, h, rfl⟩
  | call c next ih =>
    obtain ⟨s', hs', hready⟩ := h.backend hp.1 now
    obtain ⟨hresult, hend, hcalls⟩ := ih _ hready (hp.2 _ () trivial) now
    simp only [Program.run, Program.events, hs', Program.serve, Program.asked, calls_called]
    exact ⟨hresult, hend, congrArg (c :: ·) hcalls⟩
  | sleep ms next ih => exact ih h hp _

/-- The calls of a run. -/
def callsOf {α : Type} (p : Operation α) (s : Session) : List Call :=
  calls (p.run.events backend s.time s)

/-- A run in a ready session. -/
theorem Ready.run {α : Type} (h : s.Ready r) {p : Operation α}
    (hp : Operation.Avoids Call.OpensOther p) :
    (s.run p).1 = (p.serve r).1 ∧ (s.run p).2.Ready (p.serve r).2 ∧ s.callsOf p = p.asked r := by
  obtain ⟨hresult, hready, hcalls⟩ := h.run_program hp s.time
  exact ⟨hresult, ⟨hready.resources, { hready.steady with }, hready.compute, hready.volume⟩, hcalls⟩

/-- Nothing but the resources matters to a run. -/
theorem Ready.run_congr {α : Type} {s' : Session} (h : s.Ready r) (h' : s'.Ready r)
    {p : Operation α} (hp : Operation.Avoids Call.OpensOther p) :
    (s'.run p).1 = (s.run p).1 ∧ s'.callsOf p = s.callsOf p := by
  obtain ⟨hresult, -, hcalls⟩ := h.run hp
  obtain ⟨hresult', -, hcalls'⟩ := h'.run hp
  exact ⟨hresult'.trans hresult.symm, hcalls'.trans hcalls.symm⟩

end Session

end CloudProvider
