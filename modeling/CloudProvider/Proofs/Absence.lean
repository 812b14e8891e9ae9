import CloudProvider.Proofs.Deletion

/-!
# Absence

To delete a server is to make sure that it does not exist, so nothing that turns out to
be absent stands in the way: neither the server itself nor the members of its pools. There
is one exception. If the ports of the server are absent when they are to be deleted, the
deletion fails, although nothing is left of the server.

* `meetsAbsence`: whether all that goes wrong is absence;
* `deleteVm_accepts_absence`: then the deletion succeeds, or its last call is the one for
  the ports;
* `deleteVm_refuses_absent_ports`: the exception.
-/

namespace CloudProvider.Lifecycle

open Program Operation

/-- Whether nothing goes wrong in an event but that something is absent. Ports may fail
    to be listed for any reason. -/
def meetsAbsence (vmId : String) : Event Call Call.Answer → Bool
  | .called (.openService _) reply => reply.outcome.isOk
  | .called (.getPorts _) _ => true
  | .called (.getMetadata _) ⟨_, .ok metadata⟩ => (Membership.ofMetadata vmId metadata).isOk
  | .called _ ⟨_, .error e⟩ => e.isNotFound
  | _ => true

/-- No deletion of ports has failed. -/
def SparesPorts (events : List (Event Call Call.Answer)) : Prop :=
  ∀ ports reply, .called (.deletePorts ports) reply ∈ events → reply.outcome = .ok ()

/-- How a deletion ends: with success, or with ports that are absent. -/
def Concludes (vmId : String) (r : Except OperationError Unit)
    (events : List (Event Call Call.Answer)) : Prop :=
  r = .ok () ∧ SparesPorts events ∨
    ∃ before ports took e, events = before ++ [.called (.deletePorts ports) ⟨took, .error e⟩] ∧
      e.isNotFound = true ∧
      r = .error (.cloud ("Failed to delete ports of VM '" ++ vmId ++ "'") e)

variable {settings : Settings} {vmId : String} {events : List (Event Call Call.Answer)}

theorem SparesPorts.append (h : SparesPorts events) {event : Event Call Call.Answer}
    (hevent : ∀ ports reply, event = .called (.deletePorts ports) reply → reply.outcome = .ok ()) :
    SparesPorts (events ++ [event]) := by
  intro ports reply hmem
  rcases List.mem_append.1 hmem with hmem | hmem
  · exact h ports reply hmem
  · exact hevent ports reply (List.mem_singleton.1 hmem).symm

/-- The world of replies in which all that goes wrong is absence. -/
abbrev lenient (vmId : String) : World Call Call.Answer (List (Event Call Call.Answer)) :=
  expecting fun event => meetsAbsence vmId event = true

theorem ensures_openService_bind {service : Service} {title : String}
    {f : Unit → Operation Unit}
    {Q : Except OperationError Unit → List (Event Call Call.Answer) → Prop}
    (hevents : SparesPorts events)
    (hf : ∀ events, SparesPorts events → (f ()).run.Ensures (lenient vmId) Q events) :
    (openService service title >>= f).run.Ensures (lenient vmId) Q events := by
  refine Operation.ensures_bind.2 (ensures_ask.2 ⟨trivial, ?_⟩)
  rintro ⟨took, outcome⟩ _ ⟨hreply, rfl⟩
  cases outcome with
  | ok a => exact hf _ (hevents.append nofun)
  | error e => cases hreply

/-- There are memberships to leave, at worst none of a server that does not exist. -/
theorem exists_memberships {took : Nat} {outcome : Except CloudError Metadata}
    {fault : CloudError → OperationError}
    (h : meetsAbsence vmId (.called (.getMetadata vmId) ⟨took, outcome⟩) = true) :
    ∃ metadata memberships, unlessAbsent ∅ fault outcome = .ok metadata ∧
      Membership.ofMetadata vmId metadata = .ok memberships := by
  cases outcome with
  | ok metadata =>
    cases hmemberships : Membership.ofMetadata vmId metadata with
    | ok memberships => exact ⟨metadata, memberships, rfl, hmemberships⟩
    | error e =>
      rw [meetsAbsence, hmemberships] at h
      cases h
  | error e => exact ⟨∅, [], unlessAbsent_of_isNotFound h, rfl⟩

/-- Whatever of its server is absent, a deletion gets as far as the ports. -/
theorem ensures_deleteVm_lenient :
    (deleteVm settings vmId).run.Ensures (lenient vmId) (Concludes vmId) [] := by
  refine ensures_openService_bind nofun fun events hevents => ?_
  refine ensures_openService_bind hevents fun events hevents => ?_
  refine ensures_openService_bind hevents fun events hevents => ?_
  refine Operation.ensures_bind.2 (ensures_portsOf.2 ⟨trivial, ?_⟩)
  rintro reply _ ⟨-, rfl⟩
  have hlisted : SparesPorts (events ++ [.called (.getPorts vmId) reply]) := hevents.append nofun
  refine Operation.ensures_bind.2 (ensures_metadataOf.2 ⟨trivial, ?_⟩)
  rintro ⟨took, outcome⟩ _ ⟨hreply, rfl⟩
  have hread : SparesPorts (_ ++ [.called (.getMetadata vmId) ⟨took, outcome⟩]) :=
    hlisted.append nofun
  obtain ⟨metadata, memberships, hmetadata, hmemberships⟩ := exists_memberships hreply
  rw [hmetadata]
  refine Operation.ensures_bind.2 ?_
  show andThen _ _ _ (Membership.ofMetadata vmId metadata) _
  rw [hmemberships]
  refine Operation.ensures_bind.2 (ensures_leavePools (I := fun _ => SparesPorts)
    (fun _ _ _ _ _ => trivial) ?_ ?_ ?_ hread)
  · rintro name m rest events took a _ hevents ⟨-, rfl⟩
    exact hevents.append nofun
  · rintro name m rest events took e _ hevents ⟨hreply, rfl⟩
    exact ⟨fun _ => hevents.append nofun, fun he => absurd hreply (Bool.eq_false_iff.1 he)⟩
  intro events hevents
  refine Operation.ensures_bind.2 (ensures_deleteServer.2 ⟨trivial, ?_⟩)
  rintro ⟨took, outcome⟩ _ ⟨hreply, rfl⟩
  have hgone : unlessAbsent () (.cloud ("Failed to delete VM '" ++ vmId ++ "'")) outcome =
      .ok () := by
    cases outcome with
    | ok a => rfl
    | error e => exact unlessAbsent_of_isNotFound hreply
  rw [hgone]
  have hevents : SparesPorts (events ++ [.called (.deleteServer vmId) ⟨took, outcome⟩]) :=
    hevents.append nofun
  refine ensures_deletePorts (fun _ => .inl ⟨rfl, hevents⟩) fun _ => ⟨trivial, ?_⟩
  rintro ⟨took, outcome⟩ _ ⟨hreply, rfl⟩
  cases outcome with
  | ok a =>
    refine .inl ⟨rfl, hevents.append ?_⟩
    rintro ports reply ⟨⟩
    rfl
  | error e => exact .inr ⟨_, _, took, e, rfl, hreply, rfl⟩

/-- If nothing goes wrong but that something is absent, the deletion of a server
    succeeds, unless its ports are absent, for which it asks last. -/
theorem deleteVm_accepts_absence {r : Except OperationError Unit}
    (hr : Runs (deleteVm settings vmId).run events r)
    (hevents : ∀ event ∈ events, meetsAbsence vmId event = true) : Concludes vmId r events :=
  ensures_deleteVm_lenient.of_expected hr hevents

/-- The member of the pool and the server are absent once they are to be deleted. -/
def vanishingServer : Session where
  cloud := (({} : Cloud).seed fun _ => pooledServer).failNotFound "delete_pool_member"
    |>.failNotFound "delete_server"

/-- The ports of the server are deleted all the same. -/
theorem deleteVm_accepts_absence_vanished :
    let p := (deleteVm {} "vm-a").run
    let events := p.events Session.backend 0 vanishingServer
    (∀ event ∈ events, meetsAbsence "vm-a" event = true) ∧
      Concludes "vm-a" (p.run Session.backend 0 vanishingServer).result events ∧
      (p.run Session.backend 0 vanishingServer).result.isOk = true ∧
      (p.run Session.backend 0 vanishingServer).state.cloud.resources.ports = ∅ := by
  intro p events
  have hevents : ∀ event ∈ events, meetsAbsence "vm-a" event = true := by decide +kernel
  have hruns := runs_events Session.backend p 0 vanishingServer
  exact ⟨hevents, deleteVm_accepts_absence hruns hevents, by decide +kernel, by decide +kernel⟩

/-- The ports of the server are absent once they are to be deleted. -/
def vanishingPorts : Session where
  cloud := (({} : Cloud).seed fun _ => pooledServer).failNotFound "delete_ports"

/-- Absence does not always count as success: ports that are absent make a deletion
    fail. -/
theorem deleteVm_refuses_absent_ports :
    ¬ ∀ events r, Runs (deleteVm {} "vm-a").run events r →
      (∀ event ∈ events, meetsAbsence "vm-a" event = true) → r = .ok () := by
  intro h
  have hok := h _ _ (runs_events Session.backend _ 0 vanishingPorts) (by decide +kernel)
  have hfails : ((deleteVm {} "vm-a").run.run Session.backend 0 vanishingPorts).result.isOk =
      false := by decide +kernel
  rw [hok] at hfails
  cases hfails

end CloudProvider.Lifecycle
