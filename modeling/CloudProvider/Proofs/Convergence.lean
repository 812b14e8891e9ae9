import CloudProvider.Proofs.Deletion
import CloudProvider.Proofs.NoTrace

/-!
# Convergence

A deletion that fails half-way is repeated until it succeeds. What is left then of the
server, of its places in pools and of the volumes it held does not depend on where it
failed: it is what a single undisturbed deletion leaves. Its ports are another matter. They
are deleted last, and the cloud forgets whose they are with the server, so if this fails
no later attempt finds them.

* `Operation.insist`: an operation that is repeated until it succeeds;
* `Schedule.world`: a calm cloud that some calls do not reach;
* `Halfway`: what an attempt that failed leaves (`ensures_deleteVm_halfway`);
* `deleteVm_converges`: what is left in the end;
* `deleteVm_strands_ports`: ports that nobody finds.
-/

namespace CloudProvider

open Program

/-! ## Repeated operations -/

namespace Operation

variable {α σ : Type} {W : World Call Call.Answer σ} {s : σ} {p : Operation α}

/-- An operation that is repeated until it succeeds, for so many more times. -/
def insist (p : Operation α) : (more : Nat) → Operation α
  | 0 => p
  | more + 1 => ExceptT.mk <| p.run.bind fun
    | .ok a => .done (.ok a)
    | .error _ => (insist p more).run

/-- What is required of an attempt that is followed by another if it fails. -/
def orElse (I : σ → Prop) (Q : Except OperationError α → σ → Prop) :
    Except OperationError α → σ → Prop
  | .ok a, s => Q (.ok a) s
  | .error _, s => I s

/-- The invariant, which knows how many more attempts there are, holds before each. -/
theorem ensures_insist {I : Nat → σ → Prop} {Q : Except OperationError α → σ → Prop}
    (hlast : ∀ s, I 0 s → p.run.Ensures W Q s)
    (hmore : ∀ more s, I (more + 1) s → p.run.Ensures W (orElse (I more) Q) s) {more : Nat}
    (hs : I more s) : (p.insist more).run.Ensures W Q s := by
  induction more generalizing s with
  | zero => exact hlast s hs
  | succ more ih =>
    refine Program.ensures_bind.2 ((hmore more s hs).mono fun r s' hr => ?_)
    cases r with
    | ok a => exact hr
    | error e => exact ih hr

end Operation

/-! ## A calm cloud that some calls do not reach -/

namespace Schedule

variable {schedule : Schedule}

/-- Calls are refused only for so long. -/
def IsFinite (schedule : Schedule) : Prop := ∃ last, ∀ n, last ≤ n → ∀ c, schedule n c = none

/-- No call is refused as if something were absent. -/
def NeverAbsent (schedule : Schedule) : Prop :=
  ∀ n c e, schedule n c = some e → e.isNotFound = false

/-- Some call is refused, from a number on. -/
def RefusesFrom (schedule : Schedule) (start : Nat) : Prop :=
  ∃ n c e, start ≤ n ∧ schedule n c = some e

/-- A calm cloud that some calls do not reach, seen through the number of calls that were
    made and the resources. -/
def world (schedule : Schedule) : World Call Call.Answer (Nat × Resources) where
  permits _ _ := True
  leads c x reply x' :=
    x'.1 = x.1 + 1 ∧
      ((reply.outcome, x'.2) = x.2.serve c ∨
        ∃ e, schedule x.1 c = some e ∧ reply.outcome = .error e ∧ x'.2 = x.2)

theorem ensures_backend {α : Type} {p : Action α} {Q : α → Nat × Resources → Prop} {n : Nat}
    {cloud : Cloud} (hcloud : cloud.Calm) (h : p.Ensures schedule.world Q (n, cloud.resources)) :
    p.Ensures (Backend.world schedule.backend) (fun a x => Q a (x.1, x.2.resources))
      (n, cloud) := by
  have htransfer := h.transfer (V := Backend.world schedule.backend)
    (R := fun x y => x = (y.1, y.2.resources) ∧ y.2.Calm) ?_ (fun _ _ _ hrel => hrel)
    (t := (n, cloud)) ⟨rfl, hcloud⟩
  · refine htransfer.mono ?_
    rintro a y ⟨x, ⟨rfl, -⟩, hQ⟩
    exact hQ
  · rintro c _ ⟨n, cloud⟩ ⟨rfl, hcalm⟩ -
    refine ⟨trivial, ?_⟩
    rintro reply y ⟨now, hy⟩
    simp only [backend] at hy
    split at hy
    · rename_i e he
      obtain ⟨rfl, rfl⟩ := Prod.mk.inj hy
      exact ⟨(n + 1, cloud.resources), ⟨rfl, .inr ⟨e, he, rfl, rfl⟩⟩, rfl, hcalm⟩
    · obtain ⟨cloud', hanswer, hresources, hcalm'⟩ := hcalm.answer c
      rw [hanswer] at hy
      obtain ⟨rfl, rfl⟩ := Prod.mk.inj hy
      exact ⟨(n + 1, cloud'.resources), ⟨rfl, .inl (Prod.ext rfl hresources)⟩, rfl, hcalm'⟩

end Schedule

namespace Lifecycle

open Operation

/-! ## One attempt -/

/-- The metadata of a server, and none if it does not exist. -/
def metadataIn (s : Resources) (vmId : String) : Metadata :=
  ((s.servers.get? vmId).map (·.metadata)).getD ∅

/-- What an attempt that failed leaves: some members are gone and nothing else, or all is
    gone but the ports. -/
inductive Halfway (schedule : Schedule) (s₀ : Resources) (vmId : String) (ids : List String) :
    Resources → Prop
  | leaving (members : Table PoolMember) : members.eraseAll ids = s₀.members.eraseAll ids →
    Halfway schedule s₀ vmId ids { s₀ with members := members }
  | stranded {n : Nat} {ports : List Port} {e : CloudError} :
    schedule n (.deletePorts ports) = some e →
      Halfway schedule s₀ vmId ids { s₀.dismantle vmId ids with ports := s₀.ports }

/-- What a deletion leaves that succeeded. -/
inductive Finished (schedule : Schedule) (s₀ : Resources) (vmId : String) (ids : List String) :
    Resources → Prop
  | clean : Finished schedule s₀ vmId ids (s₀.dismantle vmId ids)
  | stranded {n : Nat} {ports : List Port} {e : CloudError} :
    schedule n (.deletePorts ports) = some e →
      Finished schedule s₀ vmId ids { s₀.dismantle vmId ids with ports := s₀.ports }

/-- How an attempt ends that begins when so many calls have been made. It fails only if a
    call is refused. -/
def Attempted (schedule : Schedule) (s₀ : Resources) (vmId : String) (ids : List String)
    (start : Nat) : Except OperationError Unit → Nat × Resources → Prop
  | .ok _, x => start < x.1 ∧ Finished schedule s₀ vmId ids x.2
  | .error _, x =>
    start < x.1 ∧ schedule.RefusesFrom start ∧ Halfway schedule s₀ vmId ids x.2

variable {schedule : Schedule} {s₀ s : Resources} {settings : Settings} {vmId : String}
  {ids : List String} {start n : Nat}

/-- A call of an attempt: it is answered, or else the attempt may fail. -/
theorem leads_cases {c : Call} {reply : Reply c.Answer} {n' : Nat} {s' : Resources}
    (hstart : start ≤ n) (h : schedule.world.leads c (n, s) reply (n', s')) :
    start < n' ∧ (s.serve c = (reply.outcome, s') ∨
      ∃ e, schedule n c = some e ∧ .error e = reply.outcome ∧ s = s' ∧
        schedule.RefusesFrom start) := by
  obtain ⟨hn, hcall⟩ := h
  obtain rfl : n' = n + 1 := hn
  refine ⟨Nat.lt_succ_of_le hstart, ?_⟩
  obtain hserved | ⟨e, he, houtcome, hs⟩ := hcall
  · exact .inl hserved.symm
  · exact .inr ⟨e, he, houtcome.symm, hs.symm, n, c, e, hstart, he⟩

theorem ensures_openService_world {service : Service} {title : String}
    {f : Unit → Operation Unit} (hstart : start ≤ n) (hs : Halfway schedule s₀ vmId ids s)
    (hf : ∀ n, start < n →
      (f ()).run.Ensures schedule.world (Attempted schedule s₀ vmId ids start) (n, s)) :
    (openService service title >>= f).run.Ensures schedule.world
      (Attempted schedule s₀ vmId ids start) (n, s) := by
  refine Operation.ensures_bind.2 (ensures_ask.2 ⟨trivial, ?_⟩)
  rintro ⟨took, outcome⟩ ⟨n', s'⟩ hl
  obtain ⟨hn, hserved | ⟨e, -, rfl, rfl, hrefuses⟩⟩ := leads_cases hstart hl
  · obtain ⟨rfl, rfl⟩ := Prod.mk.inj hserved
    exact hf n' hn
  · exact ⟨hn, hrefuses, hs⟩

/-- How every attempt begins: nothing is changed while it looks at what there is. -/
theorem ensures_look {f : List Port → Metadata → Operation Unit} (hstart : start ≤ n)
    (habsent : schedule.NeverAbsent) (hlists : ∀ n, schedule n (.getPorts vmId) = none)
    (hs : Halfway schedule s₀ vmId ids s)
    (hf : ∀ n, start < n → (f (s.portsOf vmId) (metadataIn s vmId)).run.Ensures schedule.world
      (Attempted schedule s₀ vmId ids start) (n, s)) :
    (do
      openCompute
      openNetwork
      openLoadBalancer
      let ports ← portsOf vmId
      let metadata ← metadataOf vmId
      f ports metadata : Operation Unit).run.Ensures schedule.world
        (Attempted schedule s₀ vmId ids start) (n, s) := by
  refine ensures_openService_world hstart hs fun n hn => ?_
  refine ensures_openService_world (Nat.le_of_lt hn) hs fun n hn => ?_
  refine ensures_openService_world (Nat.le_of_lt hn) hs fun n hn => ?_
  refine Operation.ensures_bind.2 (ensures_portsOf.2 ⟨trivial, ?_⟩)
  rintro ⟨took, outcome⟩ ⟨n', s'⟩ hl
  obtain ⟨hn, hserved | ⟨e, he, -⟩⟩ := leads_cases (Nat.le_of_lt hn) hl
  · obtain ⟨rfl, rfl⟩ := Prod.mk.inj hserved
    refine Operation.ensures_bind.2 (ensures_metadataOf.2 ⟨trivial, ?_⟩)
    rintro ⟨took, outcome⟩ ⟨n', s'⟩ hl
    obtain ⟨hn, hserved | ⟨e, he, rfl, rfl, hrefuses⟩⟩ := leads_cases (Nat.le_of_lt hn) hl
    · have hf := hf n' hn
      rw [metadataIn] at hf
      cases hserver : s.servers.get? vmId with
      | none =>
        rw [Resources.serve_getMetadata_none hserver] at hserved
        obtain ⟨rfl, rfl⟩ := Prod.mk.inj hserved
        rw [hserver] at hf
        exact hf
      | some server =>
        rw [Resources.serve_getMetadata hserver] at hserved
        obtain ⟨rfl, rfl⟩ := Prod.mk.inj hserved
        rw [hserver] at hf
        exact hf
    · rw [unlessAbsent_of_not_isNotFound (habsent _ _ _ he)]
      exact ⟨hn, hrefuses, hs⟩
  · rw [hlists] at he
    cases he

/-- What is left of an attempt once the server is in no pool any more. -/
theorem ensures_deleteServer_leaving {server : Server}
    (hserver : s₀.servers.get? vmId = some server) (habsent : schedule.NeverAbsent)
    (hn : start < n) :
    (do
      deleteServer vmId
      deletePorts vmId (s₀.portsOf vmId) : Operation Unit).run.Ensures schedule.world
        (Attempted schedule s₀ vmId ids start)
        (n, { s₀ with members := s₀.members.eraseAll ids }) := by
  refine Operation.ensures_bind.2 (ensures_deleteServer.2 ⟨trivial, ?_⟩)
  rintro ⟨took, outcome⟩ ⟨n₁, s₁⟩ hl
  obtain ⟨hn₁, hserved | ⟨e, he, rfl, rfl, hrefuses⟩⟩ := leads_cases (Nat.le_of_lt hn) hl
  · have hdelete :=
      Resources.serve_deleteServer (s := { s₀ with members := s₀.members.eraseAll ids }) hserver
    rw [hdelete] at hserved
    obtain ⟨rfl, rfl⟩ := Prod.mk.inj hserved
    refine ensures_deletePorts (fun hnone => ⟨hn₁, ?_⟩) fun _ => ⟨trivial, ?_⟩
    · have hclean : Finished schedule s₀ vmId ids (s₀.dismantle vmId ids) := .clean
      rw [Resources.dismantle, hnone] at hclean
      exact hclean
    rintro ⟨took, outcome⟩ ⟨n₂, s₂⟩ hl
    obtain ⟨hn₂, hserved | ⟨e, he, rfl, rfl, hrefuses⟩⟩ := leads_cases (Nat.le_of_lt hn₁) hl
    · rw [Resources.serve_deletePorts] at hserved
      obtain ⟨rfl, rfl⟩ := Prod.mk.inj hserved
      exact ⟨hn₂, .clean⟩
    · exact ⟨hn₂, hrefuses, .stranded he⟩
  · rw [unlessAbsent_of_not_isNotFound (habsent _ _ _ he)]
    exact ⟨hn₁, hrefuses, .leaving _ (Table.eraseAll_congr_of_subset (List.nil_subset _) rfl)⟩

/-- An attempt on a server that still exists. -/
theorem ensures_deleteVm_leaving {server : Server} (hserver : s₀.servers.get? vmId = some server)
    {memberships : List (String × Membership)}
    (htags : Membership.ofMetadata vmId server.metadata = .ok memberships)
    (hids : ids = memberships.map (·.2.memberId)) (habsent : schedule.NeverAbsent)
    (hlists : ∀ n, schedule n (.getPorts vmId) = none) {members : Table PoolMember}
    (hmembers : members.eraseAll ids = s₀.members.eraseAll ids) :
    (deleteVm settings vmId).run.Ensures schedule.world (Attempted schedule s₀ vmId ids n)
      (n, { s₀ with members := members }) := by
  refine ensures_look (Nat.le_refl n) habsent hlists (.leaving members hmembers) fun n' hn => ?_
  have hmetadata : metadataIn { s₀ with members := members } vmId = server.metadata := by
    rw [metadataIn, hserver]
    rfl
  rw [hmetadata]
  refine Operation.ensures_bind.2 ?_
  show andThen _ _ _ (Membership.ofMetadata vmId server.metadata) _
  rw [htags]
  -- The members that are still to go are all that sets the tables apart.
  refine Operation.ensures_bind.2 (ensures_leavePools
    (I := fun rest x => n < x.1 ∧ ∃ members, x.2 = { s₀ with members := members } ∧
      rest.map (·.2.memberId) ⊆ ids ∧
      members.eraseAll (rest.map (·.2.memberId)) = s₀.members.eraseAll ids)
    (fun _ _ _ _ _ => trivial) ?_ ?_ ?_ ⟨hn, members, rfl, ?_, ?_⟩)
  · rintro name m rest ⟨n₁, s₁⟩ took a ⟨n₂, s₂⟩ ⟨hn₁, members, rfl, hsub, heq⟩ hl
    obtain ⟨hn₂, hserved | ⟨e, -, ⟨⟩, -⟩⟩ := leads_cases (Nat.le_of_lt hn₁) hl
    obtain ⟨-, rfl⟩ := Prod.mk.inj hserved
    exact ⟨hn₂, members.erase m.memberId, rfl, (List.cons_subset.1 hsub).2, heq⟩
  · rintro name m rest ⟨n₁, s₁⟩ took e ⟨n₂, s₂⟩ ⟨hn₁, members, rfl, hsub, heq⟩ hl
    obtain ⟨hn₂, hserved | ⟨e, he, ⟨⟩, rfl, hrefuses⟩⟩ := leads_cases (Nat.le_of_lt hn₁) hl
    · cases hserved
    · refine ⟨fun hnotFound => ?_, fun _ => ⟨fun _ => ?_, fun _ => ⟨hn₂, members, rfl, hsub, heq⟩⟩⟩
      · rw [habsent _ _ _ he] at hnotFound
        cases hnotFound
      · exact ⟨hn₂, hrefuses, .leaving members (Table.eraseAll_congr_of_subset hsub heq)⟩
  · rintro ⟨n₁, s₁⟩ ⟨hn₁, members, rfl, -, rfl⟩
    exact ensures_deleteServer_leaving hserver habsent hn₁
  · rw [hids]
    exact List.Subset.refl _
  · rw [← hids]
    exact hmembers

/-- An attempt on a server that is gone: there is nothing left to do. -/
theorem ensures_deleteVm_stranded (habsent : schedule.NeverAbsent)
    (hlists : ∀ n, schedule n (.getPorts vmId) = none) {refused : Nat} {ports : List Port}
    {e : CloudError} (he : schedule refused (.deletePorts ports) = some e) :
    (deleteVm settings vmId).run.Ensures schedule.world (Attempted schedule s₀ vmId ids n)
      (n, { s₀.dismantle vmId ids with ports := s₀.ports }) := by
  refine ensures_look (Nat.le_refl n) habsent hlists (.stranded he) fun n' hn => ?_
  have hgone : (s₀.servers.erase vmId).get? vmId = none := Table.get?_erase_self _ _
  have hports : Resources.portsOf vmId { s₀.dismantle vmId ids with ports := s₀.ports } = [] := by
    simp [Resources.portsOf, Resources.dismantle]
  have hmetadata : metadataIn { s₀.dismantle vmId ids with ports := s₀.ports } vmId = ∅ := by
    simp [metadataIn, Resources.dismantle]
  rw [hports, hmetadata]
  show (do
    deleteServer vmId
    deletePorts vmId [] : Operation Unit).run.Ensures _ _ _
  refine Operation.ensures_bind.2 (ensures_deleteServer.2 ⟨trivial, ?_⟩)
  rintro ⟨took, outcome⟩ ⟨n₁, s₁⟩ hl
  obtain ⟨hn₁, hserved | ⟨e', he', rfl, rfl, hrefuses⟩⟩ := leads_cases (Nat.le_of_lt hn) hl
  · rw [Resources.serve_deleteServer_none hgone] at hserved
    obtain ⟨rfl, rfl⟩ := Prod.mk.inj hserved
    exact ⟨hn₁, .stranded he⟩
  · rw [unlessAbsent_of_not_isNotFound (habsent _ _ _ he')]
    exact ⟨hn₁, hrefuses, .stranded he⟩

/-- Every attempt begins and ends half-way, unless it succeeds. -/
theorem ensures_deleteVm_halfway {server : Server} (hserver : s₀.servers.get? vmId = some server)
    {memberships : List (String × Membership)}
    (htags : Membership.ofMetadata vmId server.metadata = .ok memberships)
    (habsent : schedule.NeverAbsent) (hlists : ∀ n, schedule n (.getPorts vmId) = none)
    (hs : Halfway schedule s₀ vmId (memberships.map (·.2.memberId)) s) :
    (deleteVm settings vmId).run.Ensures schedule.world
      (Attempted schedule s₀ vmId (memberships.map (·.2.memberId)) n) (n, s) := by
  cases hs with
  | leaving members hmembers =>
    exact ensures_deleteVm_leaving hserver htags rfl habsent hlists hmembers
  | stranded he => exact ensures_deleteVm_stranded habsent hlists he

/-! ## All attempts -/

/-- How a deletion that was repeated compares with one that nothing disturbs: it may have
    left the ports in place, but only if the cloud once refused to delete them. -/
structure Converged (schedule : Schedule) (s₀ clean left : Resources) : Prop where
  servers : left.servers = clean.servers
  serverPorts : left.serverPorts = clean.serverPorts
  members : left.members = clean.members
  volumes : left.volumes = clean.volumes
  ports : left.ports = clean.ports ∨
    left.ports = s₀.ports ∧ ∃ n ports e, schedule n (.deletePorts ports) = some e

theorem Finished.converged (h : Finished schedule s₀ vmId ids s) :
    Converged schedule s₀ (s₀.dismantle vmId ids) s := by
  cases h with
  | clean => exact ⟨rfl, rfl, rfl, rfl, .inl rfl⟩
  | stranded he => exact ⟨rfl, rfl, rfl, rfl, .inr ⟨rfl, _, _, _, he⟩⟩

section Repeated

variable {server : Server} {memberships : List (String × Membership)} {more : Nat}

/-- Whenever it succeeds, the deletion is finished. -/
theorem ensures_insist_finished (hserver : s₀.servers.get? vmId = some server)
    (htags : Membership.ofMetadata vmId server.metadata = .ok memberships)
    (habsent : schedule.NeverAbsent) (hlists : ∀ n, schedule n (.getPorts vmId) = none) :
    ((deleteVm settings vmId).insist more).run.Ensures schedule.world
      (fun r x => r = .ok () → Finished schedule s₀ vmId (memberships.map (·.2.memberId)) x.2)
      (n, s₀) := by
  refine ensures_insist
    (I := fun _ x => Halfway schedule s₀ vmId (memberships.map (·.2.memberId)) x.2) ?_ ?_
    (.leaving s₀.members rfl)
  · rintro ⟨n, s⟩ hs
    refine (ensures_deleteVm_halfway hserver htags habsent hlists hs).mono ?_
    rintro r x hr rfl
    exact hr.2
  · rintro more ⟨n, s⟩ hs
    refine (ensures_deleteVm_halfway hserver htags habsent hlists hs).mono fun r x hr => ?_
    cases r with
    | ok a => exact fun _ => hr.2
    | error e => exact hr.2.2

/-- Every attempt that fails uses up a call that is refused, and these run out. -/
theorem ensures_insist_ok (hserver : s₀.servers.get? vmId = some server)
    (htags : Membership.ofMetadata vmId server.metadata = .ok memberships)
    (habsent : schedule.NeverAbsent) (hlists : ∀ n, schedule n (.getPorts vmId) = none)
    {last : Nat} (hlast : ∀ n, last ≤ n → ∀ c, schedule n c = none) (hn : last ≤ n + more) :
    ((deleteVm settings vmId).insist more).run.Ensures schedule.world (fun r _ => r = .ok ())
      (n, s₀) := by
  refine ensures_insist
    (I := fun more x => Halfway schedule s₀ vmId (memberships.map (·.2.memberId)) x.2 ∧
      last ≤ x.1 + more) ?_ ?_ ⟨.leaving s₀.members rfl, hn⟩
  · rintro ⟨n, s⟩ ⟨hs, hn⟩
    refine (ensures_deleteVm_halfway hserver htags habsent hlists hs).mono fun r x hr => ?_
    cases r with
    | ok a => rfl
    | error e =>
      obtain ⟨-, ⟨n', c, e, hn', he⟩, -⟩ := hr
      rw [hlast n' (Nat.le_trans hn hn')] at he
      cases he
  · rintro more ⟨n, s⟩ ⟨hs, hn⟩
    refine (ensures_deleteVm_halfway hserver htags habsent hlists hs).mono ?_
    rintro r ⟨n', s'⟩ hr
    cases r with
    | ok a => rfl
    | error e =>
      obtain ⟨hn', -, hs'⟩ := hr
      have hle : last ≤ n' + more := by
        have hn : last ≤ n + (more + 1) := hn
        have hn' : n < n' := hn'
        omega
      exact ⟨hs', hle⟩

end Repeated

/-- Wherever it fails, a deletion that is repeated ends in success, if calls are refused
    only for so long and none as if something were absent. Everything is then as after a
    single deletion that nothing disturbs, the ports of the server apart. -/
theorem deleteVm_converges (settings : Settings) {schedule : Schedule} {cloud : Cloud}
    {vmId : String} {server : Server} (now n : Nat) (hcloud : cloud.Calm)
    (hserver : cloud.resources.servers.get? vmId = some server)
    (htags : (Membership.ofMetadata vmId server.metadata).isOk = true)
    (hfinite : schedule.IsFinite) (habsent : schedule.NeverAbsent)
    (hlists : ∀ n, schedule n (.getPorts vmId) = none) :
    let attempts more :=
      ((deleteVm settings vmId).insist more).run.run schedule.backend now (n, cloud)
    (∃ more, (attempts more).result = .ok ()) ∧
      ∀ more, (attempts more).result = .ok () →
        Converged schedule cloud.resources ((deleteVm settings vmId).serve cloud.resources).2
          (attempts more).state.2.resources := by
  intro attempts
  cases hmemberships : Membership.ofMetadata vmId server.metadata with
  | error e =>
    rw [hmemberships] at htags
    cases htags
  | ok memberships =>
    rw [serve_deleteVm hserver hmemberships]
    constructor
    · obtain ⟨last, hlast⟩ := hfinite
      exact ⟨last, (Schedule.ensures_backend hcloud (ensures_insist_ok hserver hmemberships habsent
        hlists hlast (Nat.le_add_left _ _))).of_run⟩
    · intro more hok
      have hinsist : ((deleteVm settings vmId).insist more).run.Ensures schedule.world _
          (n, cloud.resources) := ensures_insist_finished hserver hmemberships habsent hlists
      exact ((Schedule.ensures_backend hcloud hinsist).of_run hok).converged

/-- The calls of a name are refused among the first ten. -/
def busy (operation : String) : Schedule :=
  fun n c => if n < 10 ∧ c.operation = operation then some (.api "busy") else none

theorem busy_isFinite (operation : String) : (busy operation).IsFinite :=
  ⟨10, fun _ hn _ => if_neg fun h => Nat.not_lt.2 hn h.1⟩

theorem busy_neverAbsent (operation : String) : (busy operation).NeverAbsent := by
  intro n c e he
  rw [busy, Option.ite_none_right_eq_some] at he
  rw [← Option.some.inj he.2]
  rfl

/-- A cloud that holds nothing but a server in a pool, with a port. -/
def pooledCloud : Cloud := ({} : Cloud).seed fun _ => pooledServer

/-- The server cannot be deleted at first. -/
theorem deleteVm_converges_busy :
    let attempts more :=
      ((deleteVm {} "vm-a").insist more).run.run (busy "delete_server").backend 0 (0, pooledCloud)
    (attempts 0).result.isOk = false ∧
      ∃ more, (attempts more).result = .ok () ∧
        Converged (busy "delete_server") pooledServer ((deleteVm {} "vm-a").serve pooledServer).2
          (attempts more).state.2.resources := by
  intro attempts
  have hcalm : pooledCloud.Calm := ⟨rfl, rfl⟩
  have hserver : pooledCloud.resources.servers.get? "vm-a" = some _ := rfl
  obtain ⟨⟨more, hok⟩, hconverged⟩ := deleteVm_converges {} 0 0 hcalm hserver
    (by decide +kernel) (busy_isFinite "delete_server") (busy_neverAbsent "delete_server")
    fun n => if_neg fun h => absurd h.2 (by decide)
  exact ⟨by decide +kernel, more, hok, hconverged more hok⟩

/-- If the ports cannot be deleted at first, they are never deleted, and the deletion
    succeeds nevertheless. -/
theorem deleteVm_strands_ports :
    ¬ ∀ schedule : Schedule, schedule.IsFinite → schedule.NeverAbsent →
      (∀ n, schedule n (.getPorts "vm-a") = none) → ∀ more,
      let attempts := ((deleteVm {} "vm-a").insist more).run.run schedule.backend 0 (0, pooledCloud)
      attempts.result.isOk = true →
        attempts.state.2.resources.ports = ((deleteVm {} "vm-a").serve pooledServer).2.ports := by
  intro h
  have hports := h (busy "delete_ports") (busy_isFinite _) (busy_neverAbsent _)
    (fun n => if_neg fun h => absurd h.2 (by decide)) 1 (by decide +kernel)
  revert hports
  decide +kernel

end Lifecycle

end CloudProvider
