import CloudProvider.Lifecycle.Disk
import CloudProvider.Proofs.World
import CloudProvider.Simulated.Session

/-!
# Undisturbed runs

In a session that scripts nothing and a cloud that refuses nothing, a program does
what the resources answer, call by call, and neither time nor sleep matter.

* `Resources.serve`: the answer to a call as an outcome and the resources after it;
* `Program.serve`, `Operation.serve`: a program, every call of which is served, with an
  equation for every form of a step;
* `Resources.serving`: the world in which every call is served;
* `Session.backend_of_steady`: a call in a steady session, in which services may be unavailable;
* `Session.run_of_calm`: a run in a calm session is just that.
-/

namespace CloudProvider

/-- The outcome of a call, and the resources after it: those before it if it fails. -/
def Resources.serve (c : Call) (s : Resources) : Except CloudError c.Answer × Resources :=
  match Resources.answer c s with
  | .error e => (.error e, s)
  | .ok (a, s') => (.ok a, s')

theorem Resources.serve_of_ok {c : Call} {s s' : Resources} {a : c.Answer}
    (h : Resources.answer c s = .ok (a, s')) : s.serve c = (.ok a, s') := by
  rw [serve, h]

theorem Resources.serve_of_error {c : Call} {s : Resources} {e : CloudError}
    (h : Resources.answer c s = .error e) : s.serve c = (.error e, s) := by
  rw [serve, h]

/-! ## Calls -/

namespace Resources

variable {s s' : Resources} {id : String}

/-- A call that fails has changed nothing. -/
theorem eq_of_serve_error {c : Call} {e : CloudError} (h : s.serve c = (.error e, s')) :
    s' = s := by
  rw [serve] at h
  split at h
  · exact (Prod.mk.inj h).2.symm
  · cases h

theorem answer_of_serve_ok {c : Call} {a : c.Answer} (h : s.serve c = (.ok a, s')) :
    Resources.answer c s = .ok (a, s') := by
  rw [serve] at h
  split at h
  · cases h
  · rename_i hanswer
    obtain ⟨ha, rfl⟩ := Prod.mk.inj h
    rw [hanswer, Except.ok.inj ha]

theorem find_of_some {α : Type} {t : Table α} {a : α} (h : t.get? id = some a) (kind : String) :
    find t kind id = .ok a := by
  rw [find, h]

theorem find_of_none {α : Type} {t : Table α} (h : t.get? id = none) (kind : String) :
    find t kind id = .error (.notFound kind id) := by
  rw [find, h]

theorem serve_getServer {server : Server} (h : s.servers.get? id = some server) :
    s.serve (.getServer id) = (.ok server, s) := by
  have hread : s.getServer id = .ok (server, s) := by
    rw [getServer, find_of_some h]
    rfl
  exact serve_of_ok hread

theorem serve_getServer_none (h : s.servers.get? id = none) :
    s.serve (.getServer id) = (.error (.notFound "server" id), s) := by
  have hread : s.getServer id = .error (.notFound "server" id) := by
    rw [getServer, find_of_none h]
    rfl
  exact serve_of_error hread

theorem serve_getServerZone {server : Server} (h : s.servers.get? id = some server) :
    s.serve (.getServerZone id) = (.ok (server.zone.getD standardZone), s) := by
  have hread : s.getServerZone id = .ok (server.zone.getD standardZone, s) := by
    rw [getServerZone, find_of_some h]
    rfl
  exact serve_of_ok hread

theorem serve_getServerZone_none (h : s.servers.get? id = none) :
    s.serve (.getServerZone id) = (.error (.notFound "server" id), s) := by
  have hread : s.getServerZone id = .error (.notFound "server" id) := by
    rw [getServerZone, find_of_none h]
    rfl
  exact serve_of_error hread

theorem serve_getMetadata {server : Server} (h : s.servers.get? id = some server) :
    s.serve (.getMetadata id) = (.ok server.metadata, s) := by
  have hread : s.getMetadata id = .ok (server.metadata, s) := by
    rw [getMetadata, find_of_some h]
    rfl
  exact serve_of_ok hread

theorem serve_getMetadata_none (h : s.servers.get? id = none) :
    s.serve (.getMetadata id) = (.error (.notFound "server" id), s) := by
  have hread : s.getMetadata id = .error (.notFound "server" id) := by
    rw [getMetadata, find_of_none h]
    rfl
  exact serve_of_error hread

theorem serve_getFlavor {flavor : Flavor} (h : s.flavors.find? (·.id = id) = some flavor) :
    s.serve (.getFlavor id) = (.ok flavor, s) := by
  have hread : s.getFlavor id = .ok (flavor, s) := by
    rw [getFlavor, h]
    rfl
  exact serve_of_ok hread

theorem serve_listAttachments {server : Server} (h : s.servers.get? id = some server) :
    s.serve (.listAttachments id) =
      (.ok ((s.attachmentsTo id).mergeSort fun a b => a.device ≤ b.device), s) := by
  have hread : s.listAttachments id =
      .ok ((s.attachmentsTo id).mergeSort fun a b => a.device ≤ b.device, s) := by
    rw [listAttachments, find_of_some h]
    rfl
  exact serve_of_ok hread

theorem serve_listAttachments_none (h : s.servers.get? id = none) :
    s.serve (.listAttachments id) = (.error (.notFound "server" id), s) := by
  have hread : s.listAttachments id = .error (.notFound "server" id) := by
    rw [listAttachments, find_of_none h]
    rfl
  exact serve_of_error hread

/-- A volume is reported in its pinned status, if it has one. -/
theorem serve_getVolume_reported {v : Volume} (h : s.volumes.get? id = some v) :
    s.serve (.getVolume id) =
      (.ok { v with status := (s.pinnedStatuses.get? id).getD v.status }, s) := by
  have hread : s.getVolume id =
      .ok ({ v with status := (s.pinnedStatuses.get? id).getD v.status }, s) := by
    rw [getVolume, find_of_some h]
    rfl
  exact serve_of_ok hread

/-- A volume that is not pinned is reported as it is. -/
theorem serve_getVolume {v : Volume} (h : s.volumes.get? id = some v)
    (hpinned : s.pinnedStatuses.get? id = none) : s.serve (.getVolume id) = (.ok v, s) := by
  rw [serve_getVolume_reported h, hpinned]
  rfl

theorem serve_getVolume_none (h : s.volumes.get? id = none) :
    s.serve (.getVolume id) = (.error (.notFound "volume" id), s) := by
  have hread : s.getVolume id = .error (.notFound "volume" id) := by
    rw [getVolume, find_of_none h]
    rfl
  exact serve_of_error hread

theorem serve_deleteVolume {v : Volume} (h : s.volumes.get? id = some v) :
    s.serve (.deleteVolume id) = (.ok (), { s with volumes := s.volumes.erase id }) := by
  have hdelete : s.deleteVolume id = .ok ((), { s with volumes := s.volumes.erase id }) := by
    rw [deleteVolume, find_of_some h]
    rfl
  exact serve_of_ok hdelete

theorem serve_deleteVolume_none (h : s.volumes.get? id = none) :
    s.serve (.deleteVolume id) = (.error (.notFound "volume" id), s) := by
  have hdelete : s.deleteVolume id = .error (.notFound "volume" id) := by
    rw [deleteVolume, find_of_none h]
    rfl
  exact serve_of_error hdelete

end Resources

/-! ## Programs -/

namespace Program

variable {α β : Type}

/-- Run a program, every call of which the resources answer at once. -/
def serve : Action α → Resources → α × Resources
  | .done a, s => (a, s)
  | .call c next, s => (next ⟨0, (s.serve c).1⟩).serve (s.serve c).2
  | .sleep _ next, s => next.serve s

theorem serve_bind (p : Action α) (f : α → Action β) (s : Resources) :
    (p.bind f).serve s = (f (p.serve s).1).serve (p.serve s).2 := by
  induction p generalizing s with
  | done a => rfl
  | call c next ih => exact ih _ _
  | sleep ms next ih => exact ih s

theorem serve_perform {c : Call} {s s' : Resources} {r : Except CloudError c.Answer}
    (h : s.serve c = (r, s')) : (perform c : Action _).serve s = (r, s') := by
  obtain ⟨hr, hs⟩ := Prod.mk.inj h
  exact Prod.ext hr hs

/-- A call that succeeds is not repeated. -/
theorem serve_repeated {c : Call} {s s' : Resources} {a : c.Answer}
    (h : s.serve c = (.ok a, s')) (ms more : Nat) :
    (repeated c ms more : Action _).serve s = (.ok a, s') := by
  cases more with
  | zero => exact serve_perform h
  | succ more =>
    rw [repeated, serve, h]
    rfl

end Program

/-- The world of resources that answer every call at once. -/
def Resources.serving : World Call Call.Answer Resources where
  permits _ _ := True
  leads c s reply s' := s.serve c = (reply.outcome, s')

theorem Program.Ensures.of_serve {α : Type} {p : Action α} {Q : α → Resources → Prop}
    {s : Resources} (h : p.Ensures Resources.serving Q s) : Q (p.serve s).1 (p.serve s).2 := by
  induction p generalizing s with
  | done a => exact h
  | call c next ih => exact ih _ (h.2 _ _ rfl)
  | sleep ms next ih => exact ih h

/-- A wait is over at the first fetch that reports the status waited for. -/
theorem Wait.serve_awaitStatus {S : Type} [DecidableEq S] {w : Wait} {resource : String}
    {text : S → String} {target : S} {fetch : Call}
    {status : Except CloudError fetch.Answer → Except CloudError S} {s : Resources}
    {r : Except CloudError fetch.Answer} (h : s.serve fetch = (r, s)) (hr : status r = .ok target) :
    (w.awaitStatus resource text target fetch status : Action _).serve s = (.ok (), s) := by
  unfold awaitStatus poll
  rw [Program.serve, h]
  simp [reached, hr, Program.serve]

/-! ## Operations -/

namespace Operation

variable {α β : Type} {s s' : Resources}

/-- Run an operation, every call of which the resources answer at once. -/
def serve (p : Operation α) (s : Resources) : Except OperationError α × Resources :=
  Program.serve p.run s

theorem serve_bind_ok {p : Operation α} {f : α → Operation β} {a : α}
    (h : p.serve s = (.ok a, s')) : (p >>= f).serve s = (f a).serve s' := by
  refine (Program.serve_bind _ _ _).trans ?_
  rw [show Program.serve p s = _ from h]
  rfl

theorem serve_bind_error {p : Operation α} {f : α → Operation β} {e : OperationError}
    (h : p.serve s = (.error e, s')) : (p >>= f).serve s = (.error e, s') := by
  refine (Program.serve_bind _ _ _).trans ?_
  rw [show Program.serve p s = _ from h]
  rfl

/-- What succeeds, does so step by step. -/
theorem bind_of_serve {p : Operation α} {f : α → Operation β} {b : β}
    (h : (p >>= f).serve s = (.ok b, s')) :
    ∃ a s₁, p.serve s = (.ok a, s₁) ∧ (f a).serve s₁ = (.ok b, s') := by
  cases hp : p.serve s with
  | mk r s₁ =>
    cases r with
    | error e => cases h.symm.trans (serve_bind_error hp)
    | ok a => exact ⟨a, s₁, rfl, (serve_bind_ok hp).symm.trans h⟩

@[simp] theorem serve_pure (a : α) (s : Resources) :
    (pure a : Operation α).serve s = (.ok a, s) := rfl

@[simp] theorem serve_throw (e : OperationError) (s : Resources) :
    (throw e : Operation α).serve s = (.error e, s) := rfl

theorem serve_ofOutcome {fault : CloudError → OperationError} {p : Action (Except CloudError α)}
    {r : Except CloudError α} (h : p.serve s = (r, s')) :
    (ofOutcome fault p).serve s = (r.mapError fault, s') := by
  refine (Program.serve_bind _ _ _).trans ?_
  rw [h]
  rfl

theorem serve_ask {c : Call} {r : Except CloudError c.Answer} (h : s.serve c = (r, s'))
    (context : String) :
    (ask c context).serve s = (r.mapError (CloudError.inContext context), s') :=
  serve_ofOutcome (Program.serve_perform h)

theorem serve_askFor {c : Call} {r : Except CloudError c.Answer} (h : s.serve c = (r, s'))
    (kind id : String) :
    (askFor c kind id).serve s = (r.mapError (CloudError.orNotFound kind id), s') :=
  serve_ofOutcome (Program.serve_perform h)

theorem serve_attempt {c : Call} {r : Except CloudError c.Answer} (h : s.serve c = (r, s')) :
    (attempt c).serve s = (.ok r, s') := by
  refine (Program.serve_bind _ _ _).trans ?_
  rw [Program.serve_perform h]
  rfl

theorem serve_askRepeatedly {c : Call} {a : c.Answer} (h : s.serve c = (.ok a, s'))
    (settings : Settings) (policy context : String) :
    (askRepeatedly settings policy c context).serve s = (.ok a, s') :=
  serve_ofOutcome (r := .ok a) (Program.serve_repeated h _ _)

theorem serve_attemptRepeatedly {c : Call} {a : c.Answer} (h : s.serve c = (.ok a, s'))
    (settings : Settings) (policy : String) :
    (attemptRepeatedly settings policy c).serve s = (.ok (.ok a), s') := by
  refine (Program.serve_bind _ _ _).trans ?_
  rw [RetryPolicies.run, Program.serve_repeated h]
  rfl

@[simp] theorem serve_openCompute (s : Resources) : openCompute.serve s = (.ok (), s) := rfl

@[simp] theorem serve_openNetwork (s : Resources) : openNetwork.serve s = (.ok (), s) := rfl

@[simp] theorem serve_openVolume (s : Resources) : openVolume.serve s = (.ok (), s) := rfl

@[simp] theorem serve_openLoadBalancer (s : Resources) :
    openLoadBalancer.serve s = (.ok (), s) := rfl

end Operation

namespace Lifecycle

variable {s : Resources} {diskId : String}

theorem serve_awaitVolume {v : Volume} (h : s.volumes.get? diskId = some v)
    (hpinned : s.pinnedStatuses.get? diskId = none) (settings : Settings) :
    (awaitVolume settings diskId v.status).serve s = (.ok (), s) :=
  Operation.serve_ofOutcome (r := .ok ())
    (Wait.serve_awaitStatus (Resources.serve_getVolume h hpinned) rfl)

theorem serve_awaitVolume_none (h : s.volumes.get? diskId = none) (settings : Settings) :
    (awaitVolume settings diskId .deleted).serve s = (.ok (), s) :=
  Operation.serve_ofOutcome (r := .ok ())
    (Wait.serve_awaitStatus (Resources.serve_getVolume_none h) rfl)

end Lifecycle

/-! ## Calm clouds and sessions -/

namespace Cloud

/-- Nothing is refused. -/
structure Calm (s : Cloud) : Prop where
  injections : s.injections = ∅
  unavailable : s.unavailable = []

theorem Calm.answer {s : Cloud} (h : s.Calm) (c : Call) :
    ∃ s', s.answer c = ((s.resources.serve c).1, s') ∧
      s'.resources = (s.resources.serve c).2 ∧ s'.Calm := by
  have hinject : s.injections.get? c.operation = none := by rw [h.injections]; rfl
  have hreach : ∃ s', s.reach c = ((s.resources.serve c).1, s') ∧
      s'.resources = (s.resources.serve c).2 ∧ s'.Calm := by
    rw [reach_of_uninjected hinject, Resources.serve]
    cases Resources.answer c s.resources with
    | error e => exact ⟨_, rfl, rfl, { h with }⟩
    | ok a => exact ⟨_, rfl, rfl, { h with }⟩
  -- Services are opened without a look at the resources.
  cases c with
  | openService service =>
    refine ⟨s, ?_, rfl, h⟩
    rw [Cloud.answer, openService, h.unavailable]
    rfl
  | _ => exact hreach

end Cloud

namespace Session

/-- Nothing is scripted and no failure is injected. Services may be unavailable. -/
structure Steady (s : Session) : Prop where
  effects : s.effects = ∅
  serverStatuses : s.serverStatuses = ∅
  volumeStatuses : s.volumeStatuses = ∅
  snapshotStatuses : s.snapshotStatuses = ∅
  injections : s.cloud.injections = ∅

theorem pop_empty {α : Type} (name : String) : pop (∅ : Table (List α)) name = (none, ∅) := rfl

theorem overlay_of_steady {s : Session} (h : s.Steady) (c : Call) (a : c.Answer) :
    overlay c a s = (a, s) := by
  unfold overlay
  split
  · rw [h.serverStatuses, pop_empty, ← h.serverStatuses]
    rfl
  · rw [h.volumeStatuses, pop_empty, ← h.volumeStatuses]
    rfl
  · rw [h.snapshotStatuses, pop_empty, ← h.snapshotStatuses]
    rfl
  · rfl

/-- The log aside, the cloud answers. -/
theorem answerLogged_of_steady {s : Session} (h : s.Steady) {c : Call}
    {r : Except CloudError c.Answer} {cloud : Cloud} (hanswer : s.cloud.answer c = (r, cloud))
    (hinjections : cloud.injections = ∅) (now : Nat) :
    s.answerLogged c now =
      (⟨0, r⟩, { s with cloud := cloud, log := s.log ++ [⟨now, c, fault? r⟩] }) := by
  have hpop : pop s.effects c.operation = (none, s.effects) := by
    rw [h.effects]
    rfl
  have hreach : s.reach c = (r, { s with cloud := cloud }) := by
    rw [reach, hanswer]
    cases r with
    | error e => rfl
    | ok a =>
      have hsteady : ({ s with cloud := cloud } : Session).Steady :=
        { h with injections := hinjections }
      simp only
      rw [overlay_of_steady hsteady]
  have hunder : s.reachUnder c {} = (⟨0, r⟩, { s with cloud := cloud }) := by
    simp only [reachUnder, interfere, hreach]
    rfl
  simp only [answerLogged, hpop, Option.getD_none, hunder]

/-- The resources answer, unless a service is opened that is unavailable. -/
theorem backend_of_steady {s : Session} (h : s.Steady) {c : Call}
    (hopen : ∀ service, c = .openService service → s.cloud.openService service = .ok ())
    (now : Nat) :
    ∃ s', backend c now s = (⟨0, (s.cloud.resources.serve c).1⟩, s') ∧
      s'.cloud.resources = (s.cloud.resources.serve c).2 ∧ s'.Steady ∧
      s'.cloud.unavailable = s.cloud.unavailable := by
  have hlogged (hanswer : s.cloud.answer c = s.cloud.reach c) :
      ∃ s', s.answerLogged c now = (⟨0, (s.cloud.resources.serve c).1⟩, s') ∧
        s'.cloud.resources = (s.cloud.resources.serve c).2 ∧ s'.Steady ∧
        s'.cloud.unavailable = s.cloud.unavailable := by
    have hinject : s.cloud.injections.get? c.operation = none := by
      rw [h.injections]
      rfl
    rw [Cloud.reach_of_uninjected hinject] at hanswer
    cases hserved : Resources.answer c s.cloud.resources with
    | error e =>
      rw [hserved] at hanswer
      rw [Resources.serve_of_error hserved]
      exact ⟨_, answerLogged_of_steady h hanswer h.injections now, rfl, { h with }, rfl⟩
    | ok a =>
      rw [hserved] at hanswer
      rw [Resources.serve_of_ok hserved]
      exact ⟨_, answerLogged_of_steady h hanswer h.injections now, rfl, { h with }, rfl⟩
  cases c with
  | openService service =>
    refine ⟨s, ?_, rfl, h, rfl⟩
    rw [backend, hopen service rfl]
    rfl
  | _ => exact hlogged rfl

/-- Nothing is scripted, and the cloud refuses nothing. -/
structure Calm (s : Session) : Prop where
  effects : s.effects = ∅
  serverStatuses : s.serverStatuses = ∅
  volumeStatuses : s.volumeStatuses = ∅
  snapshotStatuses : s.snapshotStatuses = ∅
  injections : s.cloud.injections = ∅
  unavailable : s.cloud.unavailable = []

theorem Calm.steady {s : Session} (h : s.Calm) : s.Steady := { h with }

/-- What a calm session becomes in a call. -/
structure Served (r : Resources) (s : Session) : Prop where
  resources : s.cloud.resources = r
  calm : s.Calm

theorem backend_of_calm {s : Session} (h : s.Calm) (c : Call) (now : Nat) :
    ∃ s', backend c now s = (⟨0, (s.cloud.resources.serve c).1⟩, s') ∧
      Served (s.cloud.resources.serve c).2 s' := by
  have hopen (service : Service) : s.cloud.openService service = .ok () := by
    rw [Cloud.openService, h.unavailable]
    rfl
  obtain ⟨s', hs', hresources, hsteady, hunavailable⟩ :=
    backend_of_steady h.steady (fun service _ => hopen service) now
  exact ⟨s', hs', hresources, { hsteady with unavailable := hunavailable.trans h.unavailable }⟩

theorem run_program_of_calm {α : Type} {s : Session} (h : s.Calm) (p : Action α) (now : Nat) :
    (p.run backend now s).result = (p.serve s.cloud.resources).1 ∧
      Served (p.serve s.cloud.resources).2 (p.run backend now s).state := by
  induction p generalizing s now with
  | done a => exact ⟨rfl, rfl, h⟩
  | call c next ih =>
    obtain ⟨s', hs', hserved⟩ := backend_of_calm h c now
    rw [Program.run, hs', Program.serve, ← hserved.resources]
    exact ih _ hserved.calm _
  | sleep ms next ih => exact ih h _

/-- A run in a calm session does what the resources answer. -/
theorem run_of_calm {α : Type} {s : Session} (h : s.Calm) (p : Operation α) :
    (s.run p).1 = (p.serve s.cloud.resources).1 ∧
      Served (p.serve s.cloud.resources).2 (s.run p).2 := by
  obtain ⟨hresult, hserved⟩ := run_program_of_calm h p.run s.time
  exact ⟨hresult, hserved.resources, { hserved.calm with }⟩

end Session

end CloudProvider
