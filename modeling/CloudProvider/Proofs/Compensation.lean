import CloudProvider.Proofs.Provision
import CloudProvider.Proofs.Trace
import CloudProvider.Simulated.Session

/-!
# Compensation

A server that could not be created leaves nothing to clean up that is not cleaned up,
and nothing else is touched. Nothing is deleted before an attempt has failed; then
the ports that were created are deleted in one call, and the server, if it was
created, in another. The caller is told why the attempt failed, whatever comes of
the clean-up.

* `Succeeded`: the events of steps that have all succeeded;
* `FailedWith`: the fault is that of the first step that failed for good;
* `Compensated`: what this means for the events of a run;
* `createVm_compensates`: it holds of every run, against every backend.
-/

namespace CloudProvider

namespace Call

/-- Whether a call deletes something. -/
def deletes : Call → Bool
  | deleteServer _ | deleteMetadata _ _ | deletePorts _ | deleteVolume _ | deleteSnapshot _
  | deleteMember _ _ _ => true
  | _ => false

end Call

namespace Program

variable {C : Type} {A : C → Type}

/-- The call of an event, if it is one. -/
def Event.call? : Event C A → Option C
  | .called c _ => some c
  | .slept _ => none

/-- The calls among some events, in their order. -/
def calls (events : List (Event C A)) : List C := events.filterMap Event.call?

end Program

namespace Lifecycle

open Program

/-! ## What a run creates -/

/-- The ports that were created, in their order. -/
def createdPorts (events : List (Event Call Call.Answer)) : List Port :=
  events.filterMap fun
    | .called (.createPort _ _) ⟨_, .ok port⟩ => some port
    | _ => none

/-- The ids of the servers that were created. -/
def createdServers (events : List (Event Call Call.Answer)) : List String :=
  events.filterMap fun
    | .called (.createServer _) ⟨_, .ok server⟩ => some server.id
    | _ => none

/-- The networks that requests were resolved to. -/
def resolutions (events : List (Event Call Call.Answer)) : List NetworkConfig :=
  events.filterMap fun
    | .called (.resolveNetworks _ _) ⟨_, .ok config⟩ => some config
    | _ => none

/-- The calls that clean up: one for all ports if there are any, and one for the
    server. -/
def cleanUp (ports : List Port) (servers : List String) : List Call :=
  (if ports = [] then [] else [.deletePorts ports]) ++ servers.map .deleteServer

/-- Steps that have all succeeded, one after the other: each is a call that was tried until it
    was answered. -/
inductive Succeeded : List (Event Call Call.Answer) → Prop
  | nil : Succeeded []
  | step {before tries : List (Event Call Call.Answer)} {c : Call} {n : Nat} {a : c.Answer} :
    Succeeded before → Tries c n tries (.ok a) → Succeeded (before ++ tries)

/-- The fault is that of the step that failed, when all steps before it had succeeded: of a
    call, at its last try, or of the missing address of a server that has been created and is
    to join pools. -/
inductive FailedWith (request : VmRequest) :
    List (Event Call Call.Answer) → OperationError → Prop
  | call {before tries : List (Event Call Call.Answer)} {c : Call} {n : Nat}
    {cause : CloudError} : Succeeded before → Tries c n tries (.error cause) →
      FailedWith request (before ++ tries) (.cloud (failedStep request c) cause)
  | noAddress {events : List (Event Call Call.Answer)} {config : NetworkConfig} :
    Succeeded events → request.properties.pools ≠ [] → createdServers events ≠ [] →
      config ∈ resolutions events → config.defaultNetwork.ip = none →
        FailedWith request events (noAddress config.defaultNetwork.name)

/-- The events of a run that creates a server or fails to. -/
def Compensated (request : VmRequest) (events : List (Event Call Call.Answer)) :
    Except OperationError CreatedVm → Prop
  | .ok _ => ∀ c ∈ calls events, c.deletes = false
  | .error e =>
    ∃ before after, events = before ++ after ∧
      (∀ c ∈ calls before, c.deletes = false) ∧
      (createdServers before).length ≤ 1 ∧
      after.map Event.call? = (cleanUp (createdPorts before) (createdServers before)).map some ∧
      FailedWith request before e

/-! ## The events of an attempt -/

/-- The default networks of two configurations agree in name and address. -/
def SameDefault (config config' : NetworkConfig) : Prop :=
  config.defaultNetwork.name = config'.defaultNetwork.name ∧
    config.defaultNetwork.ip = config'.defaultNetwork.ip

theorem sameDefault_assignPort (config : NetworkConfig) (name portId : String) :
    SameDefault config (config.assignPort name portId) := by
  unfold SameDefault NetworkConfig.assignPort Network.assignPort
  by_cases h : config.defaultNetwork.name = name <;> simp [h]

/-- The progress is what the events say it is, and nothing has been deleted. -/
structure Faithful (p : Progress) (events : List (Event Call Call.Answer)) : Prop where
  ports : createdPorts events = p.ports
  servers : createdServers events = p.serverId.toList
  networks : ∀ config ∈ p.networks, ∃ resolved ∈ resolutions events, SameDefault resolved config
  keeps : ∀ c ∈ calls events, c.deletes = false

variable {request : VmRequest} {events : List (Event Call Call.Answer)} {p p' : Progress}

/-- Nothing that an attempt calls deletes anything. -/
theorem deletes_of_admits {c : Call} (h : p.Admits c) : c.deletes = false := by
  cases c <;> first | rfl | exact h.elim

theorem calls_append {C : Type} {A : C → Type} (l l' : List (Event C A)) :
    calls (l ++ l') = calls l ++ calls l' := List.filterMap_append

theorem createdPorts_append (l l' : List (Event Call Call.Answer)) :
    createdPorts (l ++ l') = createdPorts l ++ createdPorts l' := List.filterMap_append

theorem createdServers_append (l l' : List (Event Call Call.Answer)) :
    createdServers (l ++ l') = createdServers l ++ createdServers l' := List.filterMap_append

theorem resolutions_append (l l' : List (Event Call Call.Answer)) :
    resolutions (l ++ l') = resolutions l ++ resolutions l' := List.filterMap_append

theorem faithful_nil : Faithful {} [] where
  ports := rfl
  servers := rfl
  networks _ h := absurd h (Option.not_mem_none _)
  keeps _ h := absurd h List.not_mem_nil

namespace Faithful

/-- One more event, and the progress that it means. -/
theorem append (h : Faithful p events) {event : Event Call Call.Answer}
    (hports : p.ports ++ createdPorts [event] = p'.ports)
    (hservers : p.serverId.toList ++ createdServers [event] = p'.serverId.toList)
    (hnetworks : ∀ config ∈ p'.networks,
      (∃ config' ∈ p.networks, SameDefault config' config) ∨ config ∈ resolutions [event])
    (hkeeps : ∀ c ∈ calls [event], c.deletes = false) : Faithful p' (events ++ [event]) where
  ports := by rw [createdPorts_append, h.ports, hports]
  servers := by rw [createdServers_append, h.servers, hservers]
  networks config hconfig := by
    rw [resolutions_append]
    rcases hnetworks config hconfig with ⟨config', hconfig', hsame⟩ | hmem
    · obtain ⟨resolved, hmem, hsame'⟩ := h.networks config' hconfig'
      exact ⟨resolved, List.mem_append_left _ hmem, hsame'.1.trans hsame.1, hsame'.2.trans hsame.2⟩
    · exact ⟨config, List.mem_append_right _ hmem, rfl, rfl⟩
  keeps c hc := by
    rw [calls_append] at hc
    exact (List.mem_append.1 hc).elim (h.keeps c) (hkeeps c)

/-- An event that creates nothing and resolves nothing. -/
theorem append_idle (h : Faithful p events) {event : Event Call Call.Answer}
    (hports : createdPorts [event] = []) (hservers : createdServers [event] = [])
    (hkeeps : ∀ c ∈ calls [event], c.deletes = false) : Faithful p (events ++ [event]) := by
  refine h.append ?_ ?_ (fun config hconfig => .inl ⟨config, hconfig, rfl, rfl⟩) hkeeps
  · rw [hports, List.append_nil]
  · rw [hservers, List.append_nil]

theorem of_slept (h : Faithful p events) (ms : Nat) : Faithful p (events ++ [.slept ms]) :=
  h.append_idle rfl rfl fun _ hc => absurd hc List.not_mem_nil

theorem keeps_called {c : Call} (hc : p.Admits c) (reply : Reply c.Answer) :
    ∀ c' ∈ calls [(.called c reply : Event Call Call.Answer)], c'.deletes = false := by
  intro c' hc'
  obtain rfl : c' = c := List.mem_singleton.1 hc'
  exact deletes_of_admits hc

theorem of_error (h : Faithful p events) {c : Call} (hc : p.Admits c) {took : Nat}
    {e : CloudError} : Faithful p (events ++ [.called c ⟨took, .error e⟩]) := by
  refine h.append_idle ?_ ?_ (keeps_called hc _)
  all_goals cases c <;> rfl

theorem of_ok (h : Faithful p events) {c : Call} (hc : p.Admits c) {took : Nat} {a : c.Answer} :
    Faithful (p.after c a) (events ++ [.called c ⟨took, .ok a⟩]) := by
  have hkeeps := keeps_called hc ⟨took, .ok a⟩
  cases c with
  | createPort network groups =>
    refine h.append rfl (List.append_nil _) (fun config hconfig => .inl ?_) hkeeps
    obtain ⟨config', hconfig', rfl⟩ := Option.map_eq_some_iff.1 hconfig
    exact ⟨config', hconfig', sameDefault_assignPort _ _ _⟩
  | createServer r =>
    refine h.append (List.append_nil _) ?_ (fun config hconfig => .inl ⟨config, hconfig, rfl, rfl⟩)
      hkeeps
    rw [hc.1]
    rfl
  | resolveNetworks spec properties =>
    refine h.append (List.append_nil _) (List.append_nil _) (fun config hconfig => .inr ?_) hkeeps
    exact List.mem_singleton.2 (Option.some.inj hconfig).symm
  | openService _ | getImage _ | configureVip _ _ | updateMetadata _ _ | getPool _ | getSubnet _
  | createMember _ _ _ _ _ => exact h.append_idle rfl rfl hkeeps
  | _ => exact hc.elim

end Faithful

/-- The tries of a call, after steps that have all succeeded. -/
def TriedAfter (c : Call) (events : List (Event Call Call.Answer)) : Prop :=
  ∃ before tries, events = before ++ tries ∧ Succeeded before ∧ Failures c tries

/-- A try that is answered makes for one more step that has succeeded. -/
theorem TriedAfter.succeeded {c : Call} (h : TriedAfter c events) (took : Nat) (a : c.Answer) :
    Succeeded (events ++ [.called c ⟨took, .ok a⟩]) := by
  obtain ⟨before, tries, rfl, hbefore, hfailures⟩ := h
  obtain ⟨n, htries⟩ := hfailures.last ⟨took, .ok a⟩
  rw [List.append_assoc]
  exact hbefore.step htries

theorem TriedAfter.failedWith {c : Call} (h : TriedAfter c events) (took : Nat)
    (cause : CloudError) :
    FailedWith request (events ++ [.called c ⟨took, .error cause⟩])
      (.cloud (failedStep request c) cause) := by
  obtain ⟨before, tries, rfl, hbefore, hfailures⟩ := h
  obtain ⟨n, htries⟩ := hfailures.last ⟨took, .error cause⟩
  rw [List.append_assoc]
  exact .call hbefore htries

theorem TriedAfter.again {c : Call} (h : TriedAfter c events) (took : Nat) {e : CloudError}
    (he : e.isNotFound = false) (ms : Nat) :
    TriedAfter c (events ++ [.called c ⟨took, .error e⟩] ++ [.slept ms]) := by
  obtain ⟨before, tries, rfl, hbefore, hfailures⟩ := h
  exact ⟨before, _, by simp, hbefore, hfailures.again took e ms he⟩

/-- What an attempt does, whatever it is replied. -/
theorem tracked_faithful (request : VmRequest) :
    Tracked recording request (fun p events => Faithful p events ∧ Succeeded events)
      (fun p c events => Faithful p events ∧ TriedAfter c events)
      fun p e events => Faithful p events ∧ FailedWith request events e where
  tries h := ⟨h.1, _, [], (List.append_nil _).symm, h.2, .none⟩
  permits _ _ := trivial
  ok hc h hl := hl ▸ ⟨h.1.of_ok hc, h.2.succeeded _ _⟩
  error hc h hl := by
    subst hl
    exact ⟨⟨h.1.of_error hc, h.2.failedWith _ _⟩,
      fun he ms => ⟨(h.1.of_error hc).of_slept ms, h.2.again _ he ms⟩⟩
  noAddress := by
    intro p events config hpools hserver hconfig hip ⟨h, hsucceeded⟩
    -- The networks have got ports since they were resolved, but kept their addresses.
    obtain ⟨resolved, hmem, hname, hip'⟩ := h.networks config hconfig
    have hcreated : createdServers events ≠ [] := by
      rw [h.servers]
      exact fun hnil => by simp [Option.toList_eq_nil_iff.1 hnil] at hserver
    rw [← hname]
    exact ⟨h, .noAddress hsucceeded hpools hcreated hmem (hip'.trans hip)⟩

/-! ## The events of a creation -/

/-- Once the attempt has failed, the clean-up completes the run. -/
theorem compensated_append {e : OperationError} (h : Faithful p events)
    (he : FailedWith request events e) {after : List (Event Call Call.Answer)}
    (hafter : after.map Event.call? = (cleanUp p.ports p.serverId.toList).map some) :
    Compensated request (events ++ after) (.error e) := by
  refine ⟨events, after, rfl, h.keeps, ?_, ?_, he⟩
  · rw [h.servers]
    cases p.serverId <;> simp
  · rw [h.ports, h.servers, hafter]

theorem dropTrail_of_faithful {e : OperationError} (h : Faithful p events)
    (he : FailedWith request events e) :
    DropTrail recording (fun events => Compensated request events (.error e)) p.toTrail events := by
  have hdrop (after : List (Event Call Call.Answer))
      (hafter : after.map Event.call? = (cleanUp p.ports p.serverId.toList).map some) :
      Compensated request (events ++ after) (.error e) := compensated_append h he hafter
  unfold DropTrail
  split
  · rename_i hports
    cases hserver : p.serverId with
    | none => exact List.append_nil events ▸ hdrop [] (by simp [cleanUp, hports, hserver])
    | some id =>
      refine ⟨trivial, fun reply s' hs' => hs' ▸ hdrop _ ?_⟩
      simp [cleanUp, hports, hserver, Event.call?]
  · rename_i hports
    refine ⟨trivial, fun reply s' hs' => ?_⟩
    cases hserver : p.serverId with
    | none => exact hs' ▸ hdrop _ (by simp [cleanUp, hports, hserver, Event.call?])
    | some id =>
      refine ⟨trivial, fun reply' s'' hs'' => ?_⟩
      rw [hs'', hs', List.append_assoc]
      exact hdrop _ (by simp [cleanUp, hports, hserver, Event.call?])

theorem ensures_compensated (settings : Settings) (chance : Chance) (request : VmRequest) :
    (createVm settings chance request).run.Ensures recording
      (fun r events => Compensated request events r) [] := by
  refine (tracked_faithful request).ensures_createVm ⟨faithful_nil, .nil⟩ ?_ ?_
  · exact fun vm p events _ _ h => h.1.keeps
  · exact fun e p events h => dropTrail_of_faithful h.1 h.2

/-! ## Backends that differ in the clean-up -/

/-- Nothing is cleaned up on the way to a server. -/
theorem cleansUp_of_admits {c : Call} (h : p.Admits c) : c.cleansUp = false := by
  cases c <;> first | rfl | exact h.elim

theorem tracked_avoiding (request : VmRequest) :
    Tracked (avoiding (·.cleansUp)) request (fun _ _ => True) (fun _ _ _ => True)
      fun _ _ _ => True :=
  tracked_of_invariant (fun hc _ => Bool.eq_false_iff.1 (cleansUp_of_admits hc))
    (fun _ _ _ => trivial) (fun _ _ _ => trivial) fun _ => trivial

/-- The outcome of an attempt is the result, whatever comes of the clean-up. -/
theorem run_conclude_result {σ : Type} (backend : Backend Call Call.Answer σ)
    (r : Except OperationError CreatedVm) (t : Trail) (now : Nat) (s : σ) :
    ((conclude r t).run backend now s).result = r := by
  cases r with
  | ok vm => rfl
  | error e =>
    refine Ensures.of_run (Q := fun r _ => r = .error e) (ensures_conclude_error ?_)
    exact dropTrail_of_forall (fun _ _ _ => trivial) fun _ => rfl

theorem run_createVm_congr (settings : Settings) (chance : Chance) (request : VmRequest)
    {σ : Type} {backend backend' : Backend Call Call.Answer σ}
    (h : ∀ c, c.cleansUp = false → backend' c = backend c) (now : Nat) (s : σ) :
    ((createVm settings chance request).run.run backend' now s).result =
      ((createVm settings chance request).run.run backend now s).result := by
  have havoids : ((attemptVm settings chance request).run.run {}).Ensures
      (avoiding (·.cleansUp)) _ () := (tracked_avoiding request).ensures_attemptVm trivial
  have hattempt := run_congr (fun c hc => h c (Bool.eq_false_iff.2 hc)) havoids now s
  rw [createVm_run, run_bind, run_bind, run_conclude_result, run_conclude_result, hattempt]

/-! ## Compensation -/

/-- Whatever the backend replies, a creation that succeeds deletes nothing, and one
    that fails ends with the clean-up and nothing else that deletes; and the result
    is the same for two backends that differ in their replies to the clean-up. -/
theorem createVm_compensates {σ : Type} (settings : Settings) (chance : Chance)
    (request : VmRequest) (backend : Backend Call Call.Answer σ) (now : Nat) (s : σ) :
    let p := (createVm settings chance request).run
    Compensated request (p.events backend now s) (p.run backend now s).result ∧
      ∀ backend', (∀ c, c.cleansUp = false → backend' c = backend c) →
        (p.run backend' now s).result = (p.run backend now s).result :=
  ⟨(ensures_compensated settings chance request).of_events backend now s,
    fun _ h => run_createVm_congr settings chance request h now s⟩

/-- A request for a server on one network with a port. -/
def onePortRequest : VmRequest where
  agentId := "agent"
  stemcellId := "image"
  properties := { instanceType := "small" }
  networks := .ofList [("private", { kind := .manual, ip := some "10.0.0.2" })]
  diskIds := []
  environment := .null

/-- A cloud that refuses to create servers. -/
def refusingServers : Session where
  cloud := (({} : Cloud).seed (·.addImage "image")).fail "create_server"

/-- A session in which every clean-up fails. -/
def failingCleanUp : Backend Call Call.Answer Session := fun c now s =>
  if c.cleansUp then (⟨0, .error (.api "out of order")⟩, s) else Session.backend c now s

/-- The port of a server that is refused is deleted. The caller is told that the server was
    refused, also when the port cannot be deleted. -/
theorem createVm_compensates_refused :
    let p := (createVm {} default onePortRequest).run
    (∀ c, c.cleansUp = false → failingCleanUp c = Session.backend c) ∧
      Compensated onePortRequest (p.events Session.backend 0 refusingServers)
        (p.run Session.backend 0 refusingServers).result ∧
      (p.run failingCleanUp 0 refusingServers).result =
        (p.run Session.backend 0 refusingServers).result ∧
      (p.run Session.backend 0 refusingServers).result =
        .error (.cloud "Failed to create server 'vm-'" (.api "injected create_server failure")) ∧
      (calls (p.events Session.backend 0 refusingServers)).map (·.operation) =
        ["compute", "network", "load_balancer", "image", "get_image",
          "get_network_configuration", "create_port", "create_server", "delete_ports"] := by
  have hb (c : Call) (hc : c.cleansUp = false) : failingCleanUp c = Session.backend c := by
    funext now s
    simp [failingCleanUp, hc]
  obtain ⟨hevents, hresult⟩ :=
    createVm_compensates {} default onePortRequest Session.backend 0 refusingServers
  exact ⟨hb, hevents, hresult failingCleanUp hb, rfl, by decide⟩

end Lifecycle

end CloudProvider
