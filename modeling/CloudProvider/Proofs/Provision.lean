import CloudProvider.Lifecycle.Vm
import CloudProvider.Proofs.World

/-!
# The creation of a server, step by step

A rule for the creation of a server in any world. The creation is an attempt
(`attemptVm`), which leaves a trail, and what is done about its outcome
(`createVm_run`). On the way, the progress made so far (`Progress`) decides which
calls may come next (`Progress.Admits`), and every answered call moves it on
(`Progress.after`). A fact about progress and state that all these steps keep
(`Tracked`) holds for as long as they succeed. The first that fails, however often it
was tried, ends the attempt, and only then is anything cleaned up.

* `ensures_createPorts`, `ensures_joinPools`: the two loops;
* `ensures_attemptVm`: the attempt;
* `ensures_createVm`: with the clean-up after a failure.
-/

namespace CloudProvider

/-- Whether a call is one of those that clean up. -/
def Call.cleansUp : Call → Bool
  | deletePorts _ | deleteServer _ => true
  | _ => false

namespace Lifecycle

open Operation Program

variable {α β σ : Type} {W : World Call Call.Answer σ} {s : σ} {t : Trail}

/-! ## Programs that leave a trail -/

namespace Provision

/-- From a trail and a state on, every call is in order, and every run ends as
    required. -/
def Ensures (W : World Call Call.Answer σ) (Q : Except OperationError α → Trail → σ → Prop)
    (p : Provision α) (t : Trail) (s : σ) : Prop :=
  (p.run.run t).Ensures W (fun r s' => Q r.1 r.2 s') s

/-- What is required of a first step that another step follows. -/
def andThen (f : α → Provision β) (W : World Call Call.Answer σ)
    (Q : Except OperationError β → Trail → σ → Prop) :
    Except OperationError α → Trail → σ → Prop
  | .ok a, t, s => Ensures W Q (f a) t s
  | .error e, t, s => Q (.error e) t s

theorem ensures_bind {p : Provision α} {f : α → Provision β}
    {Q : Except OperationError β → Trail → σ → Prop} :
    Ensures W Q (p >>= f) t s ↔ Ensures W (andThen f W Q) p t s := by
  refine Program.ensures_bind.trans ⟨fun h => h.mono ?_, fun h => h.mono ?_⟩
  all_goals
    rintro ⟨r, t⟩ s h
    cases r <;> exact h

theorem ensures_ofOperation {p : Operation α} {Q : Except OperationError α → Trail → σ → Prop} :
    Ensures W Q (ofOperation p) t s ↔ p.run.Ensures W (fun r s' => Q r t s') s :=
  Program.ensures_bind

theorem ensures_trackPort {port : Port} {Q : Except OperationError Unit → Trail → σ → Prop} :
    Ensures W Q (trackPort port) t s ↔ Q (.ok ()) { t with ports := t.ports ++ [port] } s := .rfl

theorem ensures_trackServer {id : String} {Q : Except OperationError Unit → Trail → σ → Prop} :
    Ensures W Q (trackServer id) t s ↔ Q (.ok ()) { t with serverId := some id } s := .rfl

end Provision

open Provision

/-! ## An attempt and its outcome -/

/-- An attempt to create a server, which leaves behind what it has created. -/
def attemptVm (settings : Settings) (chance : Chance) (request : VmRequest) :
    Provision CreatedVm := do
  ofOperation openCompute
  ofOperation openNetwork
  ofOperation openLoadBalancer
  ofOperation openImage
  let imageId ← ofOperation <| ask (.getImage request.stemcellId)
    ("Failed to resolve stemcell '" ++ request.stemcellId ++ "'")
  let config ← ofOperation <| ask (.resolveNetworks request.networks request.properties)
    ("Failed to resolve networks for agent '" ++ request.agentId ++ "'")
  provision settings chance request imageId config

/-- What is done about the outcome of an attempt: a failed one is cleaned up. -/
def conclude : Except OperationError CreatedVm → Trail → Action (Except OperationError CreatedVm)
  | .ok vm, _ => .done (.ok vm)
  | .error e, t => (unwind t).run.bind fun _ => .done (.error e)

/-- A first step that leaves no trail: if it fails, there is nothing to clean up. -/
theorem run_bind_of_conclude {p : Operation α} {f : α → Operation CreatedVm}
    {g : α → Provision CreatedVm}
    (hf : ∀ a, (f a).run = ((g a).run.run {}).bind fun r => conclude r.1 r.2) :
    (p >>= f).run = ((ofOperation p >>= g).run.run {}).bind fun r => conclude r.1 r.2 := by
  refine Eq.trans ?_ (bind_assoc _ _ _).symm
  refine Eq.trans ?_ (bind_assoc _ _ _).symm
  -- Both now start with the first step, and differ in what its outcome leads to.
  refine congrArg (Program.bind p.run) (funext fun r => ?_)
  cases r with
  | ok a => exact hf a
  | error e => rfl

theorem createVm_run (settings : Settings) (chance : Chance) (request : VmRequest) :
    (createVm settings chance request).run =
      ((attemptVm settings chance request).run.run {}).bind fun r => conclude r.1 r.2 := by
  refine run_bind_of_conclude fun _ => run_bind_of_conclude fun _ =>
    run_bind_of_conclude fun _ => run_bind_of_conclude fun _ =>
    run_bind_of_conclude fun imageId => run_bind_of_conclude fun config => ?_
  refine (bind_assoc _ _ _).trans (congrArg (Program.bind _) (funext fun ⟨r, t⟩ => ?_))
  cases r with
  | ok vm => rfl
  | error e =>
    -- The clean-up itself has no fault to report.
    obtain ⟨ports, serverId⟩ := t
    cases ports <;> cases serverId <;> rfl

/-! ## Progress -/

/-- What has been achieved on the way to a server: the trail, and the networks with
    the ports recorded so far. -/
structure Progress extends Trail where
  networks : Option NetworkConfig := none

namespace Progress

/-- The calls that may come next: ports and then the server are created, and
    everything else is done for the server on the trail. -/
def Admits (p : Progress) : Call → Prop
  | .openService _ | .getImage _ | .resolveNetworks _ _ => p = {}
  | .createPort _ _ => p.serverId = none ∧ p.networks.isSome
  | .createServer r => p.serverId = none ∧ p.networks = some r.networks
  | .configureVip id _ | .updateMetadata id _ => p.serverId = some id
  | .getPool _ | .getSubnet _ | .createMember _ _ _ _ _ => p.serverId.isSome
  | _ => False

/-- The progress after a call has been answered. -/
def after (p : Progress) : (c : Call) → c.Answer → Progress
  | .resolveNetworks _ _, config => { p with networks := some config }
  | .createPort network _, port =>
    { p with
      ports := p.ports ++ [port]
      networks := p.networks.map (·.assignPort network.name port.id) }
  | .createServer _, server => { p with serverId := some server.id }
  | _, _ => p

end Progress

/-- The name under which the failure to open a service is reported. -/
def serviceTitle : Service → String
  | .loadBalancer => "load balancer"
  | service => service.name

/-- What is reported to have failed when a call fails on the way to a server. -/
def failedStep (request : VmRequest) : Call → String
  | .openService service => "Failed to create " ++ serviceTitle service ++ " service"
  | .getImage id => "Failed to resolve stemcell '" ++ id ++ "'"
  | .resolveNetworks _ _ => "Failed to resolve networks for agent '" ++ request.agentId ++ "'"
  | .createPort network _ => "Failed to create port on network '" ++ network.name ++ "'"
  | .createServer r => "Failed to create server '" ++ r.name ++ "'"
  | .configureVip id _ => "Failed to configure VIP network for server '" ++ id ++ "'"
  | .getPool name => "Failed to get load balancer pool '" ++ name ++ "'"
  | .getSubnet id => "Failed to get subnet of network '" ++ id ++ "'"
  | .createMember _ ip binding _ _ =>
    "Failed to add " ++ ip ++ ":" ++ toString binding.port.toNat ++ " to pool '" ++
      binding.name ++ "'"
  | .updateMetadata id _ => "Failed to tag server '" ++ id ++ "' with pool memberships"
  | _ => ""

/-- The fault of a server that is to join pools without an address. -/
def noAddress (network : String) : OperationError :=
  .validation ("Network '" ++ network ++ "' has no IP to register in load balancer pools")

/-- A fact about progress and state that holds between the steps on the way to a server, one
    that holds between the tries of a step, and what a fault that ends the way leaves. -/
structure Tracked (W : World Call Call.Answer σ) (request : VmRequest)
    (Inv : Progress → σ → Prop) (Trying : Progress → Call → σ → Prop)
    (Failed : Progress → OperationError → σ → Prop) : Prop where
  tries {p c s} : Inv p s → Trying p c s
  permits {p c s} : p.Admits c → Trying p c s → W.permits c s
  ok {p c s took a s'} : p.Admits c → Trying p c s → W.leads c s ⟨took, .ok a⟩ s' →
    Inv (p.after c a) s'
  error {p c s took e s'} : p.Admits c → Trying p c s → W.leads c s ⟨took, .error e⟩ s' →
    Failed p (.cloud (failedStep request c) e) s' ∧
      (e.isNotFound = false → ∀ ms, Trying p c (W.sleeps ms s'))
  /-- Only a server that is to join pools needs an address. -/
  noAddress {p s config} : request.properties.pools ≠ [] → p.serverId.isSome →
    p.networks = some config → config.defaultNetwork.ip = none → Inv p s →
      Failed p (noAddress config.defaultNetwork.name) s

/-- A fact that failures keep as well. -/
theorem tracked_of_invariant {request : VmRequest} {Inv : Progress → σ → Prop}
    (permits : ∀ {p c s}, p.Admits c → Inv p s → W.permits c s)
    (ok : ∀ {p c s took a s'}, p.Admits c → Inv p s → W.leads c s ⟨took, .ok a⟩ s' →
      Inv (p.after c a) s')
    (error : ∀ {p c s took e s'}, p.Admits c → Inv p s → W.leads c s ⟨took, .error e⟩ s' →
      Inv p s')
    (sleeps : ∀ {p s ms}, Inv p s → Inv p (W.sleeps ms s)) :
    Tracked W request Inv (fun p _ => Inv p) fun p _ => Inv p where
  tries h := h
  permits := permits
  ok := ok
  error hc hs hl := ⟨error hc hs hl, fun _ _ => sleeps (error hc hs hl)⟩
  noAddress _ _ _ _ h := h

namespace Tracked

variable {settings : Settings} {chance : Chance} {request : VmRequest}
  {Inv : Progress → σ → Prop} {Trying : Progress → Call → σ → Prop}
  {Failed : Progress → OperationError → σ → Prop} {p : Progress}

/-! ## Steps of the attempt -/

theorem ensures_ask (h : Tracked W request Inv Trying Failed) {c : Call} (hc : p.Admits c)
    (hs : Inv p s) {Q : Except OperationError c.Answer → σ → Prop}
    (hok : ∀ a s', Inv (p.after c a) s' → Q (.ok a) s')
    (herror : ∀ e s', Failed p e s' → Q (.error e) s') :
    (ask c (failedStep request c)).run.Ensures W Q s := by
  have hs := h.tries (c := c) hs
  refine Operation.ensures_ask.2 ⟨h.permits hc hs, fun ⟨took, outcome⟩ s' hl => ?_⟩
  cases outcome with
  | ok a => exact hok a s' (h.ok hc hs hl)
  | error e => exact herror _ s' (h.error hc hs hl).1

theorem ensures_askRepeatedly (h : Tracked W request Inv Trying Failed) {c : Call} (hc : p.Admits c)
    (hs : Inv p s) {policy : String} {Q : Except OperationError c.Answer → σ → Prop}
    (hok : ∀ a s', Inv (p.after c a) s' → Q (.ok a) s')
    (herror : ∀ e s', Failed p e s' → Q (.error e) s') :
    (askRepeatedly settings policy c (failedStep request c)).run.Ensures W Q s := by
  refine ensures_ofOutcome.2 (ensures_repeated (I := Trying p c) ?_ ?_ ?_ _ (h.tries hs))
  · exact fun s hs => h.permits hc hs
  · exact fun s took a s' hs hl => hok a s' (h.ok hc hs hl)
  · intro s took e s' hs hl
    obtain ⟨hfailed, hagain⟩ := h.error hc hs hl
    exact ⟨herror _ s' hfailed, fun he => hagain he _⟩

theorem ensures_createPorts (h : Tracked W request Inv Trying Failed) {groups : List String}
    {networks : List Network} {config : NetworkConfig} (hp : p.serverId = none)
    (hconfig : p.networks = some config) (hs : Inv p s)
    {Q : Except OperationError NetworkConfig → Trail → σ → Prop}
    (hok : ∀ config p s', p.serverId = none → p.networks = some config → Inv p s' →
      Q (.ok config) p.toTrail s')
    (herror : ∀ e p s', Failed p e s' → Q (.error e) p.toTrail s') :
    Provision.Ensures W Q (createPorts settings groups networks config) p.toTrail s := by
  -- Every port moves the progress on, so the rest starts from another progress.
  induction networks generalizing config p s with
  | nil => exact hok config p s hp hconfig hs
  | cons network networks ih =>
    have hc : p.Admits (.createPort network groups) := ⟨hp, by rw [hconfig]; rfl⟩
    refine Provision.ensures_bind.2 (ensures_ofOperation.2
      (h.ensures_askRepeatedly hc hs (fun port s' hs' => ?_) fun e s' hfailed => ?_))
    · have hnext : (p.after (.createPort network groups) port).networks =
          some (config.assignPort network.name port.id) := by
        rw [Progress.after, hconfig]
        rfl
      exact Provision.ensures_bind.2
        (ensures_trackPort.2 (ih (p := p.after (.createPort network groups) port) hp hnext hs'))
    · exact herror e p s' hfailed

/-- How a step ends that creates neither port nor server. -/
def Kept (Inv : Progress → σ → Prop) (Failed : Progress → OperationError → σ → Prop)
    (p : Progress) : Except OperationError α → σ → Prop
  | .ok _, s => Inv p s
  | .error e, s => Failed p e s

theorem ensures_joinPools (h : Tracked W request Inv Trying Failed) {network : Network}
    {ip : String} {bindings : List PoolBinding} (hp : p.serverId.isSome) (hs : Inv p s) :
    (joinPools settings network ip bindings).run.Ensures W (Kept Inv Failed p) s := by
  induction bindings generalizing s with
  | nil => exact hs
  | cons binding bindings ih =>
    -- Each of the three calls may fail, and the progress is the same after all of them.
    have hfault {γ : Type} (f : γ → Operation (List Membership)) (e : OperationError) (s' : σ)
        (hfailed : Failed p e s') : Operation.andThen f W (Kept Inv Failed p) (.error e) s' :=
      hfailed
    refine Operation.ensures_bind.2 (h.ensures_ask (c := .getPool _) hp hs ?_ (hfault _))
    intro pool s hs
    refine Operation.ensures_bind.2 (h.ensures_ask (c := .getSubnet _) hp hs ?_ (hfault _))
    intro subnetId s hs
    refine Operation.ensures_bind.2
      (h.ensures_askRepeatedly (c := .createMember _ _ _ _ _) hp hs ?_ (hfault _))
    intro member s hs
    refine Operation.ensures_bind.2 ((ih hs).mono fun r s hr => ?_)
    cases r with
    | ok others => exact hr
    | error e => exact hr

theorem ensures_registerMembers (h : Tracked W request Inv Trying Failed)
    {config : NetworkConfig} (hp : p.serverId.isSome) (hconfig : p.networks = some config)
    (hs : Inv p s) :
    (registerMembers settings config request.properties).run.Ensures W (Kept Inv Failed p) s := by
  unfold registerMembers
  split
  · exact hs
  · rename_i hpools
    split
    · exact h.ensures_joinPools hp hs
    · rename_i hip
      exact h.noAddress (fun hnil => hpools (hnil ▸ rfl)) hp hconfig hip hs

theorem ensures_configureFloating (h : Tracked W request Inv Trying Failed) {id : String}
    {config : NetworkConfig} (hp : p.serverId = some id) (hs : Inv p s) :
    (configureFloating id config).run.Ensures W (Kept Inv Failed p) s := by
  unfold configureFloating
  split
  · exact h.ensures_ask (c := .configureVip _ _) hp hs (fun _ _ hs => hs) fun _ _ hf => hf
  · exact hs

theorem ensures_tagMemberships (h : Tracked W request Inv Trying Failed) {id : String}
    {memberships : List Membership} (hp : p.serverId = some id) (hs : Inv p s) :
    (tagMemberships id memberships).run.Ensures W (Kept Inv Failed p) s := by
  unfold tagMemberships
  split
  · exact hs
  · exact h.ensures_ask (c := .updateMetadata _ _) hp hs (fun _ _ hs => hs) fun _ _ hf => hf

/-! ## The attempt -/

/-- How an attempt ends: with the server on the trail, or with a fault. -/
def Settled (Inv : Progress → σ → Prop) (Failed : Progress → OperationError → σ → Prop) :
    Except OperationError CreatedVm → Trail → σ → Prop
  | .ok vm, t, s =>
    ∃ p : Progress, p.toTrail = t ∧ p.serverId = some vm.vmId ∧ p.networks = some vm.networks ∧
      Inv p s
  | .error e, t, s => ∃ p : Progress, p.toTrail = t ∧ Failed p e s

/-- A step that creates neither port nor server, and what follows it. -/
theorem ensures_step {q : Operation α} {f : α → Provision CreatedVm}
    (hq : q.run.Ensures W (Kept Inv Failed p) s)
    (hf : ∀ a s', Inv p s' → Provision.Ensures W (Settled Inv Failed) (f a) p.toTrail s') :
    Provision.Ensures W (Settled Inv Failed) (ofOperation q >>= f) p.toTrail s := by
  refine Provision.ensures_bind.2 (ensures_ofOperation.2 (hq.mono fun r s' hr => ?_))
  cases r with
  | ok a => exact hf a s' hr
  | error e => exact ⟨p, rfl, hr⟩

/-- A call whose answer moves the progress on, and what follows it. -/
theorem ensures_ask_bind (h : Tracked W request Inv Trying Failed) {c : Call} (hc : p.Admits c)
    (hs : Inv p s) {f : c.Answer → Provision CreatedVm}
    (hf : ∀ a s', Inv (p.after c a) s' →
      Provision.Ensures W (Settled Inv Failed) (f a) p.toTrail s') :
    Provision.Ensures W (Settled Inv Failed) (ofOperation (ask c (failedStep request c)) >>= f)
      p.toTrail s :=
  Provision.ensures_bind.2 (ensures_ofOperation.2
    (h.ensures_ask hc hs hf fun _ _ hf => ⟨p, rfl, hf⟩))

theorem ensures_provision (h : Tracked W request Inv Trying Failed) {imageId : String}
    {config : NetworkConfig} (hp : p.serverId = none) (hconfig : p.networks = some config)
    (hs : Inv p s) :
    Provision.Ensures W (Settled Inv Failed) (provision settings chance request imageId config)
      p.toTrail s := by
  refine Provision.ensures_bind.2
    (h.ensures_createPorts hp hconfig hs ?_ fun e p s' hf => ⟨p, rfl, hf⟩)
  intro config p s hp hconfig hs
  refine h.ensures_ask_bind (c := .createServer _) ⟨hp, hconfig⟩ hs fun server s hs => ?_
  refine Provision.ensures_bind.2 (ensures_trackServer.2 ?_)
  -- From here on the server is on the trail, and nothing else joins it.
  let p' : Progress := { p with serverId := some server.id }
  have hp' : p'.serverId = some server.id := rfl
  refine ensures_step (p := p') (h.ensures_configureFloating hp' hs) fun _ s hs => ?_
  refine ensures_step (p := p') (h.ensures_registerMembers rfl hconfig hs) fun _ s hs => ?_
  refine ensures_step (p := p') (h.ensures_tagMemberships hp' hs) fun _ s hs => ?_
  exact ⟨p', rfl, rfl, hconfig, hs⟩

theorem ensures_attemptVm (h : Tracked W request Inv Trying Failed) (hs : Inv {} s) :
    Provision.Ensures W (Settled Inv Failed) (attemptVm settings chance request) {} s := by
  refine h.ensures_ask_bind (p := {}) (c := .openService .compute) rfl hs fun _ s hs => ?_
  refine h.ensures_ask_bind (p := {}) (c := .openService .network) rfl hs fun _ s hs => ?_
  refine h.ensures_ask_bind (p := {}) (c := .openService .loadBalancer) rfl hs fun _ s hs => ?_
  refine h.ensures_ask_bind (p := {}) (c := .openService .image) rfl hs fun _ s hs => ?_
  refine h.ensures_ask_bind (p := {}) (c := .getImage _) rfl hs fun imageId s hs => ?_
  refine h.ensures_ask_bind (p := {}) (c := .resolveNetworks _ _) rfl hs fun config s hs => ?_
  exact h.ensures_provision (p := { networks := some config }) rfl rfl hs

end Tracked

/-! ## The attempt and the clean-up -/

/-- What the clean-up of the server requires for `Q` to hold after it. -/
def DropServer (W : World Call Call.Answer σ) (Q : σ → Prop) : Option String → σ → Prop
  | none, s => Q s
  | some id, s =>
    W.permits (.deleteServer id) s ∧ ∀ reply s', W.leads (.deleteServer id) s reply s' → Q s'

/-- What the clean-up requires for `Q` to hold after it: the ports go first, if there
    are any, and then the server, if there is one. -/
def DropTrail (W : World Call Call.Answer σ) (Q : σ → Prop) (t : Trail) (s : σ) : Prop :=
  if t.ports = [] then DropServer W Q t.serverId s
  else
    W.permits (.deletePorts t.ports) s ∧
      ∀ reply s', W.leads (.deletePorts t.ports) s reply s' → DropServer W Q t.serverId s'

theorem dropServer_of_forall {Q : σ → Prop}
    (hpermits : ∀ c s, c.cleansUp = true → W.permits c s) (hQ : ∀ s, Q s)
    (serverId : Option String) (s : σ) : DropServer W Q serverId s := by
  cases serverId with
  | none => exact hQ s
  | some id => exact ⟨hpermits _ s rfl, fun _ s' _ => hQ s'⟩

theorem dropTrail_of_forall {Q : σ → Prop}
    (hpermits : ∀ c s, c.cleansUp = true → W.permits c s) (hQ : ∀ s, Q s) :
    DropTrail W Q t s := by
  unfold DropTrail
  split
  · exact dropServer_of_forall hpermits hQ _ s
  · exact ⟨hpermits _ s rfl, fun _ s' _ => dropServer_of_forall hpermits hQ _ s'⟩

/-- Whatever comes of the clean-up, the fault is the one that was there before. -/
theorem ensures_conclude_error {e : OperationError}
    {Q : Except OperationError CreatedVm → σ → Prop} (h : DropTrail W (Q (.error e)) t s) :
    (conclude (.error e) t).Ensures W Q s := by
  obtain ⟨ports, serverId⟩ := t
  have hserver : ∀ s, DropServer W (Q (.error e)) serverId s →
      (conclude (.error e) ⟨[], serverId⟩).Ensures W Q s := by
    intro s h
    cases serverId with
    | none => exact h
    | some id => exact h
  cases ports with
  | nil => exact hserver s h
  | cons port ports => exact ⟨h.1, fun reply s' hl => hserver s' (h.2 reply s' hl)⟩

theorem Tracked.ensures_createVm {settings : Settings} {chance : Chance} {request : VmRequest}
    {Inv : Progress → σ → Prop} {Trying : Progress → Call → σ → Prop}
    {Failed : Progress → OperationError → σ → Prop}
    (h : Tracked W request Inv Trying Failed) (hs : Inv {} s)
    {Q : Except OperationError CreatedVm → σ → Prop}
    (hok : ∀ vm p s', p.serverId = some vm.vmId → p.networks = some vm.networks → Inv p s' →
      Q (.ok vm) s')
    (herror : ∀ e p s', Failed p e s' → DropTrail W (Q (.error e)) p.toTrail s') :
    (createVm settings chance request).run.Ensures W Q s := by
  rw [createVm_run]
  refine Program.ensures_bind.2 (h.ensures_attemptVm hs |>.mono ?_)
  rintro ⟨r, t⟩ s hr
  cases r with
  | ok vm =>
    obtain ⟨p, -, hid, hnetworks, hinv⟩ := hr
    exact hok vm p s hid hnetworks hinv
  | error e =>
    obtain ⟨p, rfl, hfailed⟩ := hr
    exact ensures_conclude_error (herror e p s hfailed)

end Lifecycle

end CloudProvider
