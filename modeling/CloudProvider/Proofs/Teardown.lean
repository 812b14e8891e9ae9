import CloudProvider.Proofs.Absence
import CloudProvider.Proofs.Tags
import CloudProvider.Proofs.Trace

/-!
# Teardown

The deletion of a server first looks up what there is to delete, and then deletes in stages:
the server leaves its pools, tag by tag, then it is deleted itself, and then its ports are.
A stage begins only when all before it has gone through, and nothing is deleted if what was
looked up makes no sense, whatever is replied to any call.

* `Looked`: what is looked up, and how;
* `Dismantled`: the stages that follow, as far as they get;
* `Teardown`: what holds of the events and the result of a deletion;
* `deleteVm_tears_down`: it does hold.
-/

namespace CloudProvider.Lifecycle

open Program Operation

variable {settings : Settings} {vmId : String} {events : List (Event Call Call.Answer)}
  {ports : List Port} {metadata : Metadata}

/-- Success, or absence, which is as good. -/
def IsGone {α : Type} : Except CloudError α → Prop
  | .ok _ => True
  | .error e => e.isNotFound = true

/-- Nothing is done but that services are opened. -/
def Opening (events : List (Event Call Call.Answer)) : Prop :=
  ∀ event ∈ events, ∃ service reply, event = .called (.openService service) reply

/-- Services are opened, and the ports and the metadata of a server are asked for. -/
def Asked (vmId : String) (listed : Reply (List Port)) (read : Reply Metadata)
    (events : List (Event Call Call.Answer)) : Prop :=
  ∃ opened, Opening opened ∧
    events = opened ++ [.called (.getPorts vmId) listed, .called (.getMetadata vmId) read]

/-- What is asked for is replied. If the ports cannot be listed, there are none to delete; if
    the server does not exist, it has no metadata. -/
def Looked (vmId : String) (ports : List Port) (metadata : Metadata)
    (events : List (Event Call Call.Answer)) : Prop :=
  ∃ listed read, Asked vmId listed read events ∧ ports = listed.outcome.toOption.getD [] ∧
    (read.outcome = .ok metadata ∨
      ∃ e, read.outcome = .error e ∧ e.isNotFound = true ∧ metadata = ∅)

/-- The stages of a deletion: the memberships that the tags stand for are left one by one,
    each after so many tries at most, then the server is deleted, and then its ports are, if
    it has any. The first failure other than absence is the end. -/
inductive Dismantled (vmId : String) (limit seconds : Nat) (ports : List Port) :
    List (String × String) → List (Event Call Call.Answer) → Except OperationError Unit → Prop
  | left {name value : String} {m : Membership} {tags : List (String × String)}
    {tries events : List (Event Call Call.Answer)} {outcome : Except CloudError Unit}
    {r : Except OperationError Unit} : Membership.ofTag? value = some m →
      Tries (A := Call.Answer) (.deleteMember m.poolId m.memberId seconds) limit tries outcome →
        IsGone outcome → Dismantled vmId limit seconds ports tags events r →
          Dismantled vmId limit seconds ports ((name, value) :: tags) (tries ++ events) r
  | stuck {name value : String} {m : Membership} {tags : List (String × String)}
    {tries : List (Event Call Call.Answer)} {e : CloudError} {context : String} :
      Membership.ofTag? value = some m →
        Tries (A := Call.Answer) (.deleteMember m.poolId m.memberId seconds) limit tries
          (.error e) → e.isNotFound = false →
            Dismantled vmId limit seconds ports ((name, value) :: tags) tries
              (.error (.cloud context e))
  | kept {took : Nat} {e : CloudError} {context : String} : e.isNotFound = false →
      Dismantled vmId limit seconds ports [] [.called (.deleteServer vmId) ⟨took, .error e⟩]
        (.error (.cloud context e))
  | portless {took : Nat} {outcome : Except CloudError Unit} : ports = [] → IsGone outcome →
      Dismantled vmId limit seconds ports [] [.called (.deleteServer vmId) ⟨took, outcome⟩]
        (.ok ())
  | dropped {took : Nat} {outcome : Except CloudError Unit} {reply : Reply Unit}
    {context : String} : ports ≠ [] → IsGone outcome →
      Dismantled vmId limit seconds ports []
        [.called (.deleteServer vmId) ⟨took, outcome⟩, .called (.deletePorts ports) reply]
        (reply.outcome.mapError (.cloud context))

/-- After the server was looked up, its tags are gone through in the order of their names. -/
def Staged (settings : Settings) (vmId : String) (events : List (Event Call Call.Answer))
    (r : Except OperationError Unit) : Prop :=
  ∃ looked dismantled ports metadata tags,
    events = looked ++ dismantled ∧ Looked vmId ports metadata looked ∧
      tags = metadata.entries.filter (Membership.isTagName ·.1) ∧
      tags.Pairwise (fun a b => a.1 < b.1) ∧
      Dismantled vmId (settings.retryPolicies.resolve "delete_pool_member").attempts
        settings.stateTimeout ports tags dismantled r

/-- What holds of the events and the result of a deletion. -/
structure Teardown (settings : Settings) (vmId : String) (events : List (Event Call Call.Answer))
    (r : Except OperationError Unit) : Prop where
  /-- If the metadata cannot be read, nothing is touched. -/
  unread : ∀ took e, .called (.getMetadata vmId) ⟨took, .error e⟩ ∈ events →
    e.isNotFound = false → Untouched events
  /-- If a tag is malformed, nothing is touched. -/
  malformed : ∀ took metadata name value,
    .called (.getMetadata vmId) ⟨took, .ok metadata⟩ ∈ events →
      metadata.get? name = some value → Membership.isTagName name = true →
        Membership.ofTag? value = none →
          Untouched events ∧ ∃ reason, r = .error (.validation reason)
  /-- Otherwise it is deleted in stages. -/
  stages : (Untouched events ∧ ∃ e, r = .error e) ∨ Staged settings vmId events r
  /-- Success means that the server is gone. -/
  success : r = .ok () → ∃ took outcome,
    .called (.deleteServer vmId) ⟨took, outcome⟩ ∈ events ∧ IsGone outcome

/-! ## What was looked up -/

theorem Opening.nil : Opening [] := List.forall_mem_nil _

theorem Opening.cons (service : Service) (reply : Reply Unit) (h : Opening events) :
    Opening (.called (.openService service) reply :: events) :=
  List.forall_mem_cons.2 ⟨⟨service, reply, rfl⟩, h⟩

theorem Opening.untouched (h : Opening events) : Untouched events := by
  intro c reply hmem
  obtain ⟨service, reply', heq⟩ := h _ hmem
  cases heq
  rfl

section

variable {listed : Reply (List Port)} {read : Reply Metadata}

theorem Asked.untouched (h : Asked vmId listed read events) : Untouched events := by
  obtain ⟨opened, hopened, rfl⟩ := h
  exact hopened.untouched.append (.append (untouched_singleton rfl _) (untouched_singleton rfl _))

/-- The metadata are read once. -/
theorem Asked.eq_of_read (h : Asked vmId listed read events) {reply : Reply Metadata}
    (hmem : .called (.getMetadata vmId) reply ∈ events) : reply = read := by
  obtain ⟨opened, hopened, rfl⟩ := h
  rcases List.mem_append.1 hmem with hmem | hmem
  · obtain ⟨service, reply', heq⟩ := hopened _ hmem
    cases heq
  rcases List.mem_cons.1 hmem with heq | hmem
  · cases heq
  · cases List.mem_singleton.1 hmem
    rfl

end

/-! ## The stages -/

section

variable {limit seconds : Nat} {tags : List (String × String)} {r : Except OperationError Unit}

/-- Every call of the stages is a deletion. -/
theorem Dismantled.mutates (h : Dismantled vmId limit seconds ports tags events r) :
    ∀ c reply, .called c reply ∈ events → c.mutates = true := by
  induction h with
  | left _ htries _ _ ih =>
    intro c reply hmem
    rcases List.mem_append.1 hmem with hmem | hmem
    · rw [htries.eq_of_mem hmem]
      rfl
    · exact ih c reply hmem
  | stuck _ htries _ =>
    intro c reply hmem
    rw [htries.eq_of_mem hmem]
    rfl
  | kept _ | portless _ _ =>
    intro c reply hmem
    cases List.mem_singleton.1 hmem
    rfl
  | dropped _ _ =>
    intro c reply hmem
    rcases List.mem_cons.1 hmem with heq | hmem
    · cases heq
      rfl
    · cases List.mem_singleton.1 hmem
      rfl

/-- They end in success only after the server itself. -/
theorem Dismantled.gone_of_ok (h : Dismantled vmId limit seconds ports tags events r)
    (hr : r = .ok ()) :
    ∃ took outcome, .called (.deleteServer vmId) ⟨took, outcome⟩ ∈ events ∧ IsGone outcome := by
  induction h with
  | left _ _ _ _ ih =>
    obtain ⟨took, outcome, hmem, hgone⟩ := ih hr
    exact ⟨took, outcome, List.mem_append_right _ hmem, hgone⟩
  | stuck _ _ _ | kept _ => cases hr
  | portless _ hgone | dropped _ hgone => exact ⟨_, _, List.mem_cons_self, hgone⟩

end

/-! ## The run -/

theorem runs_portsOf {r : Except OperationError (List Port)}
    (h : Runs (portsOf vmId).run events r) :
    ∃ took listed, events = [.called (.getPorts vmId) ⟨took, listed⟩] ∧
      r = .ok (listed.toOption.getD []) := by
  have hensures : (portsOf vmId).run.Ensures recording (fun r events => ∃ took listed,
      events = [.called (.getPorts vmId) ⟨took, listed⟩] ∧
        r = .ok (listed.toOption.getD [])) [] :=
    ensures_portsOf.2 ⟨trivial, fun reply _ hl => ⟨reply.took, reply.outcome, hl, rfl⟩⟩
  exact hensures.of_runs h

theorem runs_metadataOf {r : Except OperationError Metadata}
    (h : Runs (metadataOf vmId).run events r) :
    ∃ took read, events = [.called (.getMetadata vmId) ⟨took, read⟩] ∧
      r = unlessAbsent ∅ (.cloud ("Failed to get metadata of VM '" ++ vmId ++ "'")) read := by
  have hensures : (metadataOf vmId).run.Ensures recording (fun r events => ∃ took read,
      events = [.called (.getMetadata vmId) ⟨took, read⟩] ∧
        r = unlessAbsent ∅ (.cloud ("Failed to get metadata of VM '" ++ vmId ++ "'")) read) [] :=
    ensures_metadataOf.2 ⟨trivial, fun reply _ hl => ⟨reply.took, reply.outcome, hl, rfl⟩⟩
  exact hensures.of_runs h

theorem runs_deleteServer {r : Except OperationError Unit}
    (h : Runs (deleteServer vmId).run events r) :
    ∃ took outcome, events = [.called (.deleteServer vmId) ⟨took, outcome⟩] ∧
      r = unlessAbsent () (.cloud ("Failed to delete VM '" ++ vmId ++ "'")) outcome := by
  have hensures : (deleteServer vmId).run.Ensures recording (fun r events => ∃ took outcome,
      events = [.called (.deleteServer vmId) ⟨took, outcome⟩] ∧
        r = unlessAbsent () (.cloud ("Failed to delete VM '" ++ vmId ++ "'")) outcome) [] :=
    ensures_deleteServer.2 ⟨trivial, fun reply _ hl => ⟨reply.took, reply.outcome, hl, rfl⟩⟩
  exact hensures.of_runs h

theorem ok_of_unlessAbsent {α : Type} {absent a : α} {fault : CloudError → OperationError}
    {outcome : Except CloudError α} (h : unlessAbsent absent fault outcome = .ok a) :
    outcome = .ok a ∨ ∃ e, outcome = .error e ∧ e.isNotFound = true ∧ a = absent := by
  cases outcome with
  | ok a' =>
    cases h
    exact .inl rfl
  | error e =>
    cases he : e.isNotFound with
    | true =>
      rw [unlessAbsent_of_isNotFound he] at h
      cases h
      exact .inr ⟨e, rfl, he, rfl⟩
    | false =>
      rw [unlessAbsent_of_not_isNotFound he] at h
      cases h

theorem isGone_of_unlessAbsent {α : Type} {absent a : α} {fault : CloudError → OperationError}
    {outcome : Except CloudError α} (h : unlessAbsent absent fault outcome = .ok a) :
    IsGone outcome := by
  obtain rfl | ⟨e, rfl, he, -⟩ := ok_of_unlessAbsent h
  · trivial
  · exact he

theorem error_of_unlessAbsent {α : Type} {absent : α} {fault : CloudError → OperationError}
    {outcome : Except CloudError α} {e : OperationError}
    (h : unlessAbsent absent fault outcome = .error e) :
    ∃ cause, outcome = .error cause ∧ cause.isNotFound = false ∧ e = fault cause := by
  cases outcome with
  | ok a => cases h
  | error cause =>
    cases hcause : cause.isNotFound with
    | true =>
      rw [unlessAbsent_of_isNotFound hcause] at h
      cases h
    | false =>
      rw [unlessAbsent_of_not_isNotFound hcause] at h
      exact ⟨cause, rfl, hcause, (Except.error.inj h).symm⟩

section

variable {limit seconds : Nat} {r : Except OperationError Unit}

theorem dismantled_of_runs_deleteServer
    (h : Runs (deleteServer vmId >>= fun _ => deletePorts vmId ports).run events r) :
    Dismantled vmId limit seconds ports [] events r := by
  obtain ⟨e, rfl, hserver⟩ | ⟨before, after, _, rfl, hserver, hports⟩ := runs_bind h
  · obtain ⟨took, outcome, rfl, hr⟩ := runs_deleteServer hserver
    obtain ⟨cause, rfl, hcause, rfl⟩ := error_of_unlessAbsent hr.symm
    exact .kept hcause
  · obtain ⟨took, outcome, rfl, hr⟩ := runs_deleteServer hserver
    have hgone := isGone_of_unlessAbsent hr.symm
    cases ports with
    | nil =>
      obtain ⟨rfl, rfl⟩ := runs_pure hports
      exact .portless rfl hgone
    | cons port ports =>
      obtain ⟨took', outcome', rfl, rfl⟩ := runs_ask hports
      exact .dropped (List.cons_ne_nil _ _) hgone

theorem dismantled_of_runs {tags : List (String × String)}
    {memberships : List (String × Membership)}
    (htags : Membership.ofEntries vmId tags = .ok memberships)
    (h : Runs (leavePools settings vmId memberships >>= fun _ =>
      deleteServer vmId >>= fun _ => deletePorts vmId ports).run events r) :
    Dismantled vmId (settings.retryPolicies.resolve "delete_pool_member").attempts
      settings.stateTimeout ports tags events r := by
  induction tags generalizing memberships events with
  | nil =>
    cases htags
    exact dismantled_of_runs_deleteServer h
  | cons tag tags ih =>
    obtain ⟨name, value⟩ := tag
    -- The tag stands for the first membership, and the other tags for the others.
    obtain ⟨m, rest, hm, hrest, rfl⟩ := Membership.ofEntries_cons_ok htags
    rw [leavePools, LawfulMonad.bind_assoc] at h
    obtain ⟨e, rfl, htried⟩ | ⟨before, after, outcome, rfl, htried, h⟩ := runs_bind h
    · obtain ⟨outcome, houtcome, -⟩ := runs_attemptRepeatedly htried
      cases houtcome
    obtain ⟨_, houtcome, htries⟩ := runs_attemptRepeatedly htried
    cases houtcome
    cases outcome with
    | ok a => exact .left hm htries trivial (ih hrest h)
    | error e =>
      cases he : e.isNotFound with
      | true =>
        simp only [he, if_true] at h
        exact .left hm htries he (ih hrest h)
      | false =>
        simp only [he, Bool.false_eq_true, if_false] at h
        obtain ⟨_, rfl, hthrown⟩ | ⟨_, _, _, rfl, hthrown, -⟩ := runs_bind h
        · obtain ⟨rfl, hr⟩ := runs_throw hthrown
          cases hr
          rw [List.append_nil]
          exact .stuck hm htries he
        · cases (runs_throw hthrown).2

end

theorem runs_openService_bind {α : Type} {service : Service} {title : String}
    {f : Unit → Operation α} {r : Except OperationError α}
    (h : Runs (openService service title >>= f).run events r) :
    (∃ e reply, r = .error e ∧ events = [.called (.openService service) reply]) ∨
      ∃ reply after, events = .called (.openService service) reply :: after ∧
        Runs (f ()).run after r := by
  obtain ⟨e, rfl, hopened⟩ | ⟨before, after, _, rfl, hopened, hf⟩ := runs_bind h
  · obtain ⟨took, outcome, rfl, -⟩ := runs_ask hopened
    exact .inl ⟨e, _, rfl, rfl⟩
  · obtain ⟨took, outcome, rfl, -⟩ := runs_ask hopened
    exact .inr ⟨_, after, rfl, hf⟩

/-- A deletion that touches nothing fails, and if it has read a malformed tag, it says so. -/
theorem teardown_of_untouched {e : OperationError} (h : Untouched events)
    (hread : ∀ took metadata, .called (.getMetadata vmId) ⟨took, .ok metadata⟩ ∈ events →
      ∃ reason, e = .validation reason) : Teardown settings vmId events (.error e) where
  unread _ _ _ _ := h
  malformed took metadata _ _ hmem _ _ _ := by
    obtain ⟨reason, rfl⟩ := hread took metadata hmem
    exact ⟨h, reason, rfl⟩
  stages := .inl ⟨h, e, rfl⟩
  success hr := by cases hr

theorem teardown_of_opening {e : OperationError} (h : Opening events) :
    Teardown settings vmId events (.error e) := by
  refine teardown_of_untouched h.untouched fun took metadata hmem => ?_
  obtain ⟨service, reply, heq⟩ := h _ hmem
  cases heq

theorem teardown_of_dismantled {dismantled : List (Event Call Call.Answer)}
    {memberships : List (String × Membership)} {r : Except OperationError Unit}
    (hlooked : Looked vmId ports metadata events)
    (hmetadata : Membership.ofMetadata vmId metadata = .ok memberships)
    (h : Dismantled vmId (settings.retryPolicies.resolve "delete_pool_member").attempts
      settings.stateTimeout ports (metadata.entries.filter (Membership.isTagName ·.1))
      dismantled r) : Teardown settings vmId (events ++ dismantled) r := by
  -- The metadata are not read again in the stages.
  obtain ⟨listed, read, hasked, -, hread⟩ := id hlooked
  have heq {reply : Reply Metadata} (hmem : .called (.getMetadata vmId) reply ∈
      events ++ dismantled) : reply = read :=
    hasked.eq_of_read ((List.mem_append.1 hmem).resolve_right fun hmem =>
      Bool.false_ne_true (h.mutates (.getMetadata vmId) reply hmem))
  constructor
  case unread =>
    intro took e hmem he
    cases heq hmem
    obtain hread | ⟨e', hread, he', -⟩ := hread
    · cases hread
    · cases hread
      rw [he] at he'
      cases he'
  case malformed =>
    intro took metadata' name value hmem hget hname hvalue
    cases heq hmem
    obtain hread | ⟨_, hread, -⟩ := hread
    · cases hread
      have hentry := List.mem_filter (p := (Membership.isTagName ·.1)).2
        ⟨Table.mem_entries.2 hget, hname⟩
      obtain ⟨reason, hreason⟩ := Membership.ofEntries_malformed vmId hentry hvalue
      rw [Membership.ofMetadata, hreason] at hmetadata
      cases hmetadata
    · cases hread
  case stages =>
    exact .inr ⟨events, dismantled, ports, metadata, _, rfl, hlooked, rfl,
      metadata.sorted.filter _, h⟩
  case success =>
    intro hr
    obtain ⟨took, outcome, hmem, hgone⟩ := h.gone_of_ok hr
    exact ⟨took, outcome, List.mem_append_right _ hmem, hgone⟩

/-- Whatever is replied to its calls, a deletion proceeds in order. -/
theorem deleteVm_tears_down {r : Except OperationError Unit}
    (hr : Runs (deleteVm settings vmId).run events r) : Teardown settings vmId events r := by
  obtain ⟨e, _, rfl, rfl⟩ | ⟨compute, _, rfl, hr₁⟩ := runs_openService_bind hr
  · exact teardown_of_opening (.cons _ _ .nil)
  obtain ⟨e, _, rfl, rfl⟩ | ⟨network, _, rfl, hr₂⟩ := runs_openService_bind hr₁
  · exact teardown_of_opening (.cons _ _ (.cons _ _ .nil))
  obtain ⟨e, _, rfl, rfl⟩ | ⟨balancer, _, rfl, hr₃⟩ := runs_openService_bind hr₂
  · exact teardown_of_opening (.cons _ _ (.cons _ _ (.cons _ _ .nil)))
  obtain ⟨_, rfl, hlisted⟩ | ⟨_, _, ports, rfl, hlisted, hr₄⟩ := runs_bind hr₃
  · obtain ⟨_, _, -, heq⟩ := runs_portsOf hlisted
    cases heq
  obtain ⟨took, listed, rfl, hports⟩ := runs_portsOf hlisted
  cases hports
  have hasked (read : Reply Metadata) : Asked vmId ⟨took, listed⟩ read _ :=
    ⟨_, .cons .compute compute (.cons .network network (.cons .loadBalancer balancer .nil)), rfl⟩
  obtain ⟨_, rfl, hread⟩ | ⟨_, _, metadata, rfl, hread, hr₅⟩ := runs_bind hr₄
  · obtain ⟨took', read, rfl, hfault⟩ := runs_metadataOf hread
    obtain ⟨cause, rfl, hcause, rfl⟩ := error_of_unlessAbsent hfault.symm
    refine teardown_of_untouched (hasked _).untouched fun took metadata hmem => ?_
    cases (hasked _).eq_of_read hmem
  obtain ⟨took', read, rfl, hmetadata⟩ := runs_metadataOf hread
  have hlooked : Looked vmId _ metadata _ :=
    ⟨_, _, hasked ⟨took', read⟩, rfl, ok_of_unlessAbsent hmetadata.symm⟩
  cases hmemberships : Membership.ofMetadata vmId metadata with
  | error e =>
    rw [hmemberships] at hr₅
    cases hr₅
    exact teardown_of_untouched (hasked _).untouched fun _ _ _ =>
      Membership.validation_of_ofEntries hmemberships
  | ok memberships =>
    rw [hmemberships] at hr₅
    exact teardown_of_dismantled hlooked hmemberships (dismantled_of_runs hmemberships hr₅)

/-- A server in two pools, the first of which is slow to let go of it. -/
def clingingPools : Session where
  cloud := (({} : Cloud).seed fun _ => pooledServer.setServerMetadata "vm-a"
    [("lbaas_pool_1", "pool-web/member-7"), ("lbaas_pool_2", "pool-api/member-8")]).failTimes
      "delete_pool_member" 2

/-- The server leaves the first pool at the third try, and then the second at once. -/
theorem deleteVm_tears_down_clinging :
    let p := (deleteVm {} "vm-a").run
    let o := p.run Session.backend 0 clingingPools
    Teardown {} "vm-a" (p.events Session.backend 0 clingingPools) o.result ∧
      o.result.isOk = true ∧
      o.state.log.map (fun c => (c.call.operation, c.call.subjects)) =
        [("get_ports", ["vm-a"]), ("get_metadata", ["vm-a"]),
          ("delete_pool_member", ["pool-web", "member-7"]),
          ("delete_pool_member", ["pool-web", "member-7"]),
          ("delete_pool_member", ["pool-web", "member-7"]),
          ("delete_pool_member", ["pool-api", "member-8"]),
          ("delete_server", ["vm-a"]), ("delete_ports", ["port-a"])] := by
  intro p o
  exact ⟨deleteVm_tears_down (runs_events Session.backend p 0 clingingPools), by decide +kernel,
    by decide +kernel⟩

end CloudProvider.Lifecycle
