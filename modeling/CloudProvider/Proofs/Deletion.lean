import CloudProvider.Lifecycle.Vm
import CloudProvider.Proofs.Served
import CloudProvider.Proofs.World

/-!
# The deletion of a server, step by step

A rule for every step of the deletion of a server, in any world, and what the whole of
it does to resources that answer every call. To most steps absence is as good as
success (`unlessAbsent`); the deletion of ports is the exception.

* `ensures_leavePools`: the loop over the pools of a server;
* `Resources.dismantle`: what becomes of the resources;
* `serve_deleteVm`: the deletion does just that.
-/

namespace CloudProvider

open Program

namespace Operation

variable {α β σ : Type} {W : World Call Call.Answer σ} {s : σ}

theorem ensures_attempt_bind {c : Call} {f : Except CloudError c.Answer → Operation β}
    {Q : Except OperationError β → σ → Prop} :
    (attempt c >>= f).run.Ensures W Q s ↔
      W.permits c s ∧ ∀ reply s', W.leads c s reply s' → (f reply.outcome).run.Ensures W Q s' :=
  ensures_bind.trans ensures_attempt

/-- The outcome of a step to which absence is as good as success. -/
def unlessAbsent (absent : α) (fault : CloudError → OperationError) :
    Except CloudError α → Except OperationError α
  | .ok a => .ok a
  | .error e => if e.isNotFound then .ok absent else .error (fault e)

theorem unlessAbsent_of_isNotFound {absent : α} {fault : CloudError → OperationError}
    {e : CloudError} (h : e.isNotFound = true) :
    unlessAbsent absent fault (.error e) = .ok absent := if_pos h

theorem unlessAbsent_of_not_isNotFound {absent : α} {fault : CloudError → OperationError}
    {e : CloudError} (h : e.isNotFound = false) :
    unlessAbsent absent fault (.error e) = .error (fault e) := by
  rw [unlessAbsent, h]
  rfl

end Operation

namespace Lifecycle

open Operation

variable {σ : Type} {W : World Call Call.Answer σ} {s : σ} {settings : Settings} {vmId : String}

/-! ## Steps -/

theorem ensures_unlessAbsent {α : Type} {absent : α} {fault : CloudError → OperationError}
    {e : CloudError} {Q : Except OperationError α → σ → Prop} :
    (if e.isNotFound then pure absent else throw (fault e) : Operation α).run.Ensures W Q s ↔
      Q (unlessAbsent absent fault (.error e)) s := by
  cases he : e.isNotFound with
  | true =>
    rw [unlessAbsent_of_isNotFound he]
    exact .rfl
  | false =>
    rw [unlessAbsent_of_not_isNotFound he]
    exact .rfl

theorem ensures_portsOf {Q : Except OperationError (List Port) → σ → Prop} :
    (portsOf vmId).run.Ensures W Q s ↔
      W.permits (.getPorts vmId) s ∧ ∀ reply s', W.leads (.getPorts vmId) s reply s' →
        Q (.ok (reply.outcome.toOption.getD [])) s' := by
  refine ensures_attempt_bind.trans (and_congr_right fun _ => forall_congr' fun reply => ?_)
  cases reply.outcome <;> exact .rfl

theorem ensures_metadataOf {Q : Except OperationError Metadata → σ → Prop} :
    (metadataOf vmId).run.Ensures W Q s ↔
      W.permits (.getMetadata vmId) s ∧ ∀ reply s', W.leads (.getMetadata vmId) s reply s' →
        Q (unlessAbsent ∅ (.cloud ("Failed to get metadata of VM '" ++ vmId ++ "'"))
          reply.outcome) s' := by
  refine ensures_attempt_bind.trans (and_congr_right fun _ => forall_congr' fun reply => ?_)
  cases reply.outcome with
  | ok metadata => exact .rfl
  | error e => exact forall_congr' fun s' => imp_congr_right fun _ => ensures_unlessAbsent

theorem ensures_deleteServer {Q : Except OperationError Unit → σ → Prop} :
    (deleteServer vmId).run.Ensures W Q s ↔
      W.permits (.deleteServer vmId) s ∧ ∀ reply s', W.leads (.deleteServer vmId) s reply s' →
        Q (unlessAbsent () (.cloud ("Failed to delete VM '" ++ vmId ++ "'")) reply.outcome) s' := by
  refine ensures_attempt_bind.trans (and_congr_right fun _ => forall_congr' fun reply => ?_)
  cases reply.outcome with
  | ok a => exact .rfl
  | error e => exact forall_congr' fun s' => imp_congr_right fun _ => ensures_unlessAbsent

/-- Only the deletion of ports takes absence for a fault. -/
theorem ensures_deletePorts {ports : List Port} {Q : Except OperationError Unit → σ → Prop}
    (hnone : ports = [] → Q (.ok ()) s)
    (hsome : ports ≠ [] → W.permits (.deletePorts ports) s ∧
      ∀ reply s', W.leads (.deletePorts ports) s reply s' →
        Q (reply.outcome.mapError (.cloud ("Failed to delete ports of VM '" ++ vmId ++ "'"))) s') :
    (deletePorts vmId ports).run.Ensures W Q s := by
  cases ports with
  | nil => exact hnone rfl
  | cons port ports => exact ensures_ask.2 (hsome (List.cons_ne_nil _ _))

/-- The invariant of the loop says which memberships are still to be left. A failure,
    unless it is absence, must restore it in the sleep that follows. -/
theorem ensures_leavePools {I : List (String × Membership) → σ → Prop}
    {Q : Except OperationError Unit → σ → Prop}
    (hcall : ∀ name m rest s, I ((name, m) :: rest) s →
      W.permits (.deleteMember m.poolId m.memberId settings.stateTimeout) s)
    (hok : ∀ name m rest s took a s', I ((name, m) :: rest) s →
      W.leads (.deleteMember m.poolId m.memberId settings.stateTimeout) s ⟨took, .ok a⟩ s' →
        I rest s')
    (herror : ∀ name m rest s took e s', I ((name, m) :: rest) s →
      W.leads (.deleteMember m.poolId m.memberId settings.stateTimeout) s ⟨took, .error e⟩ s' →
        (e.isNotFound = true → I rest s') ∧
        (e.isNotFound = false → (∀ context, Q (.error (.cloud context e)) s') ∧
          ∀ ms, I ((name, m) :: rest) (W.sleeps ms s')))
    (hdone : ∀ s, I [] s → Q (.ok ()) s) {memberships : List (String × Membership)}
    (hs : I memberships s) : (leavePools settings vmId memberships).run.Ensures W Q s := by
  induction memberships generalizing s with
  | nil => exact hdone s hs
  | cons entry rest ih =>
    obtain ⟨name, m⟩ := entry
    refine Operation.ensures_bind.2 (ensures_ofAction.2 (ensures_repeated
      (I := I ((name, m) :: rest)) ?_ ?_ ?_ _ hs))
    · exact fun s hs => hcall name m rest s hs
    · exact fun s took a s' hs hl => ih (hok name m rest s took a s' hs hl)
    · intro s took e s' hs hl
      obtain ⟨habsent, hfault⟩ := herror name m rest s took e s' hs hl
      refine ⟨?_, fun he => (hfault he).2 _⟩
      show Program.Ensures _ _ (ExceptT.run (if e.isNotFound then _ else _)) _
      cases he : e.isNotFound with
      | true => exact ih (habsent he)
      | false => exact (hfault he).1 _

end Lifecycle

/-! ## The whole deletion, undisturbed -/

namespace Resources

variable {s : Resources} {vmId : String}

/-- The ports of a server that still exist. -/
def portsOf (vmId : String) (s : Resources) : List Port :=
  ((s.serverPorts.get? vmId).getD []).filterMap s.ports.get?

/-- Resources without a server, its ports and some members of pools. -/
def dismantle (vmId : String) (memberIds : List String) (s : Resources) : Resources :=
  { s with
    servers := s.servers.erase vmId
    serverPorts := s.serverPorts.erase vmId
    volumes := s.volumes.map (releaseFrom vmId)
    ports := s.ports.eraseAll ((s.portsOf vmId).map (·.id))
    members := s.members.eraseAll memberIds }

theorem serve_deleteServer {server : Server} (h : s.servers.get? vmId = some server) :
    s.serve (.deleteServer vmId) = (.ok (),
      { s with
        servers := s.servers.erase vmId
        volumes := s.volumes.map (releaseFrom vmId)
        serverPorts := s.serverPorts.erase vmId }) := by
  have hdelete : s.deleteServer vmId = .ok ((),
      { s with
        servers := s.servers.erase vmId
        volumes := s.volumes.map (releaseFrom vmId)
        serverPorts := s.serverPorts.erase vmId }) := by
    rw [deleteServer, find_of_some h]
    rfl
  exact serve_of_ok hdelete

theorem serve_deleteServer_none (h : s.servers.get? vmId = none) :
    s.serve (.deleteServer vmId) = (.error (.notFound "server" vmId), s) := by
  have hdelete : s.deleteServer vmId = .error (.notFound "server" vmId) := by
    rw [deleteServer, find_of_none h]
    rfl
  exact serve_of_error hdelete

theorem serve_deletePorts (ports : List Port) (s : Resources) :
    s.serve (.deletePorts ports) =
      (.ok (), { s with ports := s.ports.eraseAll (ports.map (·.id)) }) := by
  rw [Table.eraseAll, List.foldl_map]
  rfl

end Resources

namespace Lifecycle

open Operation

variable {s : Resources} {vmId : String} {settings : Settings}

theorem serve_leavePools (memberships : List (String × Membership)) (s : Resources) :
    (leavePools settings vmId memberships).serve s =
      (.ok (), { s with members := s.members.eraseAll (memberships.map (·.2.memberId)) }) := by
  induction memberships generalizing s with
  | nil => rfl
  | cons entry rest ih =>
    obtain ⟨name, m⟩ := entry
    let s' : Resources := { s with members := s.members.erase m.memberId }
    have hserve :
        s.serve (.deleteMember m.poolId m.memberId settings.stateTimeout) = (.ok (), s') := rfl
    exact (serve_bind_ok (serve_attemptRepeatedly hserve settings _)).trans (ih s')

theorem serve_deletePorts (ports : List Port) (s : Resources) :
    (deletePorts vmId ports).serve s =
      (.ok (), { s with ports := s.ports.eraseAll (ports.map (·.id)) }) := by
  cases ports with
  | nil => rfl
  | cons port ports => exact serve_ask (Resources.serve_deletePorts _ s) _

/-- A server whose tags are in order is deleted with everything that belongs to it. -/
theorem serve_deleteVm {server : Server} (hserver : s.servers.get? vmId = some server)
    {memberships : List (String × Membership)}
    (htags : Membership.ofMetadata vmId server.metadata = .ok memberships) :
    (deleteVm settings vmId).serve s =
      (.ok (), s.dismantle vmId (memberships.map (·.2.memberId))) := by
  let s₁ : Resources :=
    { s with members := s.members.eraseAll (memberships.map (·.2.memberId)) }
  have hports : (portsOf vmId).serve s = (.ok (s.portsOf vmId), s) := rfl
  have hmetadata : (metadataOf vmId).serve s = (.ok server.metadata, s) :=
    serve_bind_ok (serve_attempt (Resources.serve_getMetadata hserver))
  have hmemberships : Operation.serve
      (ExceptT.mk (.done (Membership.ofMetadata vmId server.metadata))) s =
        (.ok memberships, s) := by
    rw [htags]
    rfl
  have hdelete : (deleteServer vmId).serve s₁ = _ :=
    serve_bind_ok (serve_attempt (Resources.serve_deleteServer (s := s₁) hserver))
  exact (serve_bind_ok (serve_openCompute s)).trans <|
    (serve_bind_ok (serve_openNetwork s)).trans <|
    (serve_bind_ok (serve_openLoadBalancer s)).trans <|
    (serve_bind_ok hports).trans <| (serve_bind_ok hmetadata).trans <|
    (serve_bind_ok hmemberships).trans <|
    (serve_bind_ok (serve_leavePools memberships s)).trans <|
    (serve_bind_ok hdelete).trans (serve_deletePorts _ _)

/-- A server in a pool, with a port. -/
def pooledServer : Resources :=
  (({} : Resources).addServer "vm-a" "small").setServerMetadata "vm-a"
    [("lbaas_pool_1", "pool-web/member-7")] |>.addServerPort "vm-a" "port-a"

end Lifecycle

end CloudProvider
