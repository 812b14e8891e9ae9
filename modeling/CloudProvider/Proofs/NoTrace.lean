import CloudProvider.Proofs.Provision
import CloudProvider.Simulated.Cloud

/-!
# No trace

A server that could not be created leaves no trace in a simulated cloud, wherever the
creation fails, as long as the calls that clean up get through. Only the members of
pools stay that were added by then.

* `Schedule.backend`: a cloud that some calls do not reach;
* `Built`: what has been built so far is what the progress says, and taking it away
  leaves what was there before; every call keeps this (`Built.of_answer`);
* `createVm_leaves_no_trace`: so a failed creation ends where it began.
-/

namespace CloudProvider

/-! ## Refused calls -/

/-- Which calls are refused before they reach the cloud, by their number, and why. -/
abbrev Schedule := Nat → Call → Option CloudError

namespace Schedule

/-- A cloud that some calls do not reach. Its state holds how many calls were made. -/
def backend (schedule : Schedule) : Program.Backend Call Call.Answer (Nat × Cloud) :=
  fun c _ (n, cloud) =>
    match schedule n c with
    | some e => (⟨0, .error e⟩, n + 1, cloud)
    | none =>
      let (r, cloud) := cloud.answer c
      (⟨0, r⟩, n + 1, cloud)

/-- The calls that clean up reach the cloud. -/
def SparesCleanUp (schedule : Schedule) : Prop :=
  ∀ n c, c.cleansUp = true → schedule n c = none

end Schedule

/-- No failure is injected into the calls that clean up. -/
def Cloud.SparesCleanUp (cloud : Cloud) : Prop :=
  ∀ c : Call, c.cleansUp = true → cloud.injections.get? c.operation = none

namespace Schedule

variable {schedule : Schedule} {c : Call} {now took : Nat} {x x' : Nat × Cloud}

theorem backend_ok {a : c.Answer} (h : schedule.backend c now x = (⟨took, .ok a⟩, x')) :
    x.2.answer c = (.ok a, x'.2) := by
  obtain ⟨n, cloud⟩ := x
  simp only [backend] at h
  split at h
  · cases h
  · obtain ⟨hreply, rfl⟩ := Prod.mk.inj h
    rw [← (Reply.mk.inj hreply).2]

theorem backend_error {e : CloudError} (h : schedule.backend c now x = (⟨took, .error e⟩, x')) :
    x'.2.resources = x.2.resources := by
  obtain ⟨n, cloud⟩ := x
  simp only [backend] at h
  split at h
  · obtain ⟨-, rfl⟩ := Prod.mk.inj h
    rfl
  · obtain ⟨hreply, rfl⟩ := Prod.mk.inj h
    have hanswer : cloud.answer c = (.error e, (cloud.answer c).2) :=
      Prod.ext (Reply.mk.inj hreply).2 rfl
    exact Cloud.answer_resources_of_error hanswer

theorem backend_sparesCleanUp (schedule : Schedule) (c : Call) (now : Nat)
    (h : x.2.SparesCleanUp) :
    (schedule.backend c now x).2.2.SparesCleanUp := by
  obtain ⟨n, cloud⟩ := x
  intro c' hc'
  simp only [backend]
  split
  · exact h c' hc'
  · exact Cloud.answer_injections (h c' hc')

/-- A call that cleans up does what the resources say. -/
theorem backend_spared {a : c.Answer} {r : Resources} (hspare : schedule.SparesCleanUp)
    (hinj : x.2.SparesCleanUp) (hc : c.cleansUp = true)
    (hr : Resources.answer c x.2.resources = .ok (a, r)) :
    (schedule.backend c now x).2.2.resources = r := by
  obtain ⟨n, cloud⟩ := x
  have hreach : (cloud.reach c).2.resources = r := by
    rw [Cloud.reach_of_uninjected (hinj c hc), hr]
  simp only [backend, hspare n c hc]
  cases c with
  | deletePorts ports => exact hreach
  | deleteServer id => exact hreach
  | _ => cases hc

end Schedule

namespace Lifecycle

open Program

/-! ## Before and after -/

/-- Ids are in no use before they are given out, volumes are attached to servers that
    exist, and they are in use only when attached. -/
structure Orderly (s : Resources) : Prop where
  servers {id} : s.Unissued "server" id → s.servers.get? id = none
  serverPorts {id} : s.Unissued "server" id → s.serverPorts.get? id = none
  ports {id} : s.Unissued "port" id → s.ports.get? id = none
  attached {id v} : s.volumes.get? id = some v → ∀ a ∈ v.attachments, s.servers.contains a.serverId
  held {id v} : s.volumes.get? id = some v → v.status = .inUse → v.attachments ≠ []

/-- Ids of servers and ports are in no use before they are given out. -/
structure Unused (s : Resources) : Prop where
  servers {id} : s.Unissued "server" id → s.servers.get? id = none
  serverPorts {id} : s.Unissued "server" id → s.serverPorts.get? id = none
  ports {id} : s.Unissued "port" id → s.ports.get? id = none

theorem Orderly.unused {s : Resources} (h : Orderly s) : Unused s := { h with }

/-- Everything is as it was before, but for members that were added. -/
structure NoTrace (s s' : Resources) : Prop where
  servers : s'.servers = s.servers
  ports : s'.ports = s.ports
  serverPorts : s'.serverPorts = s.serverPorts
  volumes : s'.volumes = s.volumes
  snapshots : s'.snapshots = s.snapshots
  members id : s'.members.get? id = s.members.get? id ∨
    (s.Unissued "member" id ∧ s'.members.contains id = true)

/-! ## What has been built -/

/-- What has been built on the way to a server is the ports and the server of the
    progress; everything else is as it was, but for members that were added. -/
structure Built (s₀ : Resources) (p : Progress) (s : Resources) : Prop where
  issued : s₀.issued ≤ s.issued
  servers : s.servers.eraseAll p.serverId.toList = s₀.servers
  serverPorts : s.serverPorts.eraseAll p.serverId.toList = s₀.serverPorts
  server {id} : p.serverId = some id → s.servers.contains id = true
  ports : s.ports.eraseAll (p.ports.map (·.id)) = s₀.ports
  volumes : s.volumes = s₀.volumes
  snapshots : s.snapshots = s₀.snapshots
  members id : s.members.get? id = s₀.members.get? id ∨
    (s₀.Unissued "member" id ∧ s.members.contains id = true)

namespace Built

variable {s₀ s s' : Resources} {p : Progress}

theorem refl (s : Resources) : Built s {} s where
  issued := Nat.le_refl _
  servers := rfl
  serverPorts := rfl
  server h := by cases h
  ports := rfl
  volumes := rfl
  snapshots := rfl
  members _ := .inl rfl

theorem unissued_nextId (h : Built s₀ p s) (kind : String) :
    s₀.Unissued kind (s.nextId kind) :=
  (s.unissued_nextId kind).mono h.issued

/-! ### Calls on the way -/

theorem createPort (h₀ : Unused s₀) (h : Built s₀ p s) {network : Network} {port : Port}
    (hs : s.createPort network = .ok (port, s')) :
    Built s₀ { p with ports := p.ports ++ [port] } s' := by
  cases hs
  -- No port had its id before, so taking it away undoes its creation.
  have hfresh : (s.ports.eraseAll (p.ports.map (·.id))).get? (s.nextId "port") = none := by
    rw [h.ports]
    exact h₀.ports (h.unissued_nextId "port")
  refine { h with issued := Nat.le_succ_of_le h.issued, ports := ?_ }
  rw [List.map_append, List.map_singleton, Table.eraseAll_insert_append _ _ hfresh]
  exact h.ports

theorem createServer (h₀ : Unused s₀) (h : Built s₀ p s) (hp : p.serverId = none)
    {r : ServerRequest} {server : Server} (hs : s.createServer r = .ok (server, s')) :
    Built s₀ { p with serverId := some server.id } s' := by
  cases hs
  have hservers : s.servers = s₀.servers := by simpa [hp] using h.servers
  have hserverPorts : s.serverPorts = s₀.serverPorts := by simpa [hp] using h.serverPorts
  have hfresh := h.unissued_nextId "server"
  refine { h with
    issued := Nat.le_succ_of_le h.issued, servers := ?_, serverPorts := ?_, server := ?_ }
  · refine (s.servers.erase_insert _ ?_).trans hservers
    rw [hservers]
    exact h₀.servers hfresh
  · refine (s.serverPorts.erase_insert _ ?_).trans hserverPorts
    rw [hserverPorts]
    exact h₀.serverPorts hfresh
  · intro id hid
    obtain rfl : s.nextId "server" = id := Option.some.inj hid
    rw [Table.contains_insert, decide_eq_true rfl, Bool.true_or]

theorem updateServer (h : Built s₀ p s) {id : String} (hp : p.serverId = some id)
    {change : Server → Server} {a : Unit} (hs : s.updateServer id change = .ok (a, s')) :
    Built s₀ p s' := by
  obtain ⟨server, -, hs⟩ := Resources.find_bind_ok hs
  cases hs
  refine { h with servers := ?_, server := ?_ }
  · rw [Table.eraseAll_insert_of_mem _ _ (by simp [hp])]
    exact h.servers
  · intro id' hid'
    rw [Table.contains_insert, h.server hid', Bool.or_true]

theorem createMember (h : Built s₀ p s) {pool : Pool} {ip : String} {binding : PoolBinding}
    {member : PoolMember} (hs : s.createMember pool ip binding = .ok (member, s')) :
    Built s₀ p s' := by
  cases hs
  refine { h with issued := Nat.le_succ_of_le h.issued, members := fun id => ?_ }
  rw [Table.contains_insert, Table.get?_insert]
  by_cases hid : id = s.nextId "member"
  · exact .inr ⟨hid ▸ h.unissued_nextId "member", by simp [hid]⟩
  · simpa [hid] using h.members id

/-- Every call on the way to a server that succeeds builds what it is for. -/
theorem of_answer (h₀ : Unused s₀) (h : Built s₀ p s) {c : Call} (hc : p.Admits c)
    {a : c.Answer} (hs : Resources.answer c s = .ok (a, s')) : Built s₀ (p.after c a) s' := by
  cases c with
  | createPort network groups => exact { h.createPort h₀ hs with }
  | createServer r => exact h.createServer h₀ hc.1 hs
  | updateMetadata id metadata => exact h.updateServer hc hs
  | createMember pool ip binding subnetId seconds => exact h.createMember hs
  | openService _ | getSubnet _ => cases hs; exact h
  | resolveNetworks _ _ =>
    obtain ⟨-, rfl⟩ := Resources.unchanged_ok hs
    exact { h with }
  | getImage _ | configureVip _ _ | getPool _ =>
    obtain ⟨-, rfl⟩ := Resources.unchanged_ok hs
    exact h
  | _ => exact hc.elim

/-! ### Taking it away -/

theorem deletePorts (h : Built s₀ p s) :
    ∃ s', s.deletePorts p.ports = .ok ((), s') ∧ Built s₀ { p with ports := [] } s' := by
  have hports : p.ports.foldl (fun t port => t.erase port.id) s.ports = s₀.ports := by
    rw [← h.ports, Table.eraseAll, List.foldl_map]
  exact ⟨_, rfl, { h with ports := hports }⟩

/-- No volume notices that a server is gone that was not there before. -/
theorem map_releaseFrom (h₀ : Orderly s₀) {id : String} (hid : s₀.servers.get? id = none) :
    s₀.volumes.map (Resources.releaseFrom id) = s₀.volumes := by
  refine Table.map_eq_self fun key v hv => Resources.releaseFrom_eq_self ?_ (h₀.held hv)
  rintro a ha rfl
  have hserver := h₀.attached hv a ha
  rw [Table.contains_of_none hid] at hserver
  cases hserver

theorem deleteServer (h₀ : Orderly s₀) (h : Built s₀ p s) {id : String}
    (hp : p.serverId = some id) :
    ∃ s', s.deleteServer id = .ok ((), s') ∧ Built s₀ { p with serverId := none } s' := by
  obtain ⟨server, hserver⟩ := Option.isSome_iff_exists.1 (h.server hp)
  have hservers : s.servers.erase id = s₀.servers := by simpa [hp] using h.servers
  have hserverPorts : s.serverPorts.erase id = s₀.serverPorts := by simpa [hp] using h.serverPorts
  -- The volumes are those from before, and there was no such server then.
  have hvolumes : s.volumes.map (Resources.releaseFrom id) = s₀.volumes := by
    rw [h.volumes]
    refine map_releaseFrom h₀ ?_
    rw [← hservers, Table.get?_erase_self]
  refine ⟨{ s with
    servers := s.servers.erase id
    volumes := s.volumes.map (Resources.releaseFrom id)
    serverPorts := s.serverPorts.erase id }, ?_, ?_⟩
  · rw [Resources.deleteServer, Resources.find, hserver]
    rfl
  · exact { h with
      servers := hservers, serverPorts := hserverPorts, server := nofun, volumes := hvolumes }

/-- Once everything is taken away, nothing is left. -/
theorem noTrace (h : Built s₀ p s) (hports : p.ports = []) (hserver : p.serverId = none) :
    NoTrace s₀ s where
  servers := by simpa [hserver] using h.servers
  ports := by simpa [hports] using h.ports
  serverPorts := by simpa [hserver] using h.serverPorts
  volumes := h.volumes
  snapshots := h.snapshots
  members := h.members

end Built

/-! ## Creation -/

variable {s₀ : Resources} {schedule : Schedule} {p : Progress} {x : Nat × Cloud}

/-- A cloud in which so much has been built, and which fails no call of the clean-up. -/
def BuiltIn (s₀ : Resources) (p : Progress) (x : Nat × Cloud) : Prop :=
  Built s₀ p x.2.resources ∧ x.2.SparesCleanUp

theorem tracked_built (h₀ : Orderly s₀) (schedule : Schedule) (request : VmRequest) :
    Tracked (Backend.world schedule.backend) request (BuiltIn s₀) (fun p _ => BuiltIn s₀ p)
      fun p _ => BuiltIn s₀ p := by
  refine tracked_of_invariant (fun _ _ => trivial) ?_ ?_ id
  · rintro p c x took a x' hc ⟨hbuilt, hspares⟩ ⟨now, hx'⟩
    have hanswer := Cloud.answer_ok (Schedule.backend_ok hx')
    have hspares' := schedule.backend_sparesCleanUp c now hspares
    rw [hx'] at hspares'
    exact ⟨hbuilt.of_answer h₀.unused hc hanswer, hspares'⟩
  · rintro p c x took e x' hc ⟨hbuilt, hspares⟩ ⟨now, hx'⟩
    have hspares' := schedule.backend_sparesCleanUp c now hspares
    rw [hx'] at hspares'
    refine ⟨?_, hspares'⟩
    rw [Schedule.backend_error hx']
    exact hbuilt

/-- One call of the clean-up. -/
theorem drop_of_answer {c : Call} {a : c.Answer} {r : Resources} {Q : Nat × Cloud → Prop}
    (hspare : schedule.SparesCleanUp) (hc : c.cleansUp = true) (hx : x.2.SparesCleanUp)
    (hr : Resources.answer c x.2.resources = .ok (a, r))
    (hQ : ∀ x', x'.2.resources = r → x'.2.SparesCleanUp → Q x') :
    (Backend.world schedule.backend).permits c x ∧
      ∀ reply x', (Backend.world schedule.backend).leads c x reply x' → Q x' := by
  refine ⟨trivial, fun reply x' hl => ?_⟩
  obtain ⟨now, hl⟩ := hl
  obtain rfl : (schedule.backend c now x).2 = x' := congrArg Prod.snd hl
  exact hQ _ (Schedule.backend_spared hspare hx hc hr) (schedule.backend_sparesCleanUp c now hx)

theorem dropServer_of_built (h₀ : Orderly s₀) (hspare : schedule.SparesCleanUp)
    (h : Built s₀ p x.2.resources) (hx : x.2.SparesCleanUp) (hports : p.ports = []) :
    DropServer (Backend.world schedule.backend) (fun x => NoTrace s₀ x.2.resources)
      p.serverId x := by
  cases hserver : p.serverId with
  | none => exact h.noTrace hports hserver
  | some id =>
    obtain ⟨r, hr, hbuilt⟩ := h.deleteServer h₀ hserver
    refine drop_of_answer (c := .deleteServer id) hspare rfl hx hr fun x' hx' _ => ?_
    rw [hx']
    exact hbuilt.noTrace hports rfl

theorem dropTrail_of_built (h₀ : Orderly s₀) (hspare : schedule.SparesCleanUp)
    (h : Built s₀ p x.2.resources) (hx : x.2.SparesCleanUp) :
    DropTrail (Backend.world schedule.backend) (fun x => NoTrace s₀ x.2.resources)
      p.toTrail x := by
  unfold DropTrail
  split
  · rename_i hports
    exact dropServer_of_built h₀ hspare h hx hports
  · obtain ⟨r, hr, hbuilt⟩ := h.deletePorts
    refine drop_of_answer (c := .deletePorts p.ports) hspare rfl hx hr fun x' hx' hspares => ?_
    rw [← hx'] at hbuilt
    exact dropServer_of_built (p := { p with ports := [] }) h₀ hspare hbuilt hspares rfl

/-- What a creation leaves: a server, or no trace. -/
def Left (s₀ : Resources) : Except OperationError CreatedVm → Nat × Cloud → Prop
  | .ok _, _ => True
  | .error _, x => NoTrace s₀ x.2.resources

/-- Whatever makes a creation fail, and wherever it does, nothing is left of it but
    members of pools. -/
theorem createVm_leaves_no_trace (settings : Settings) (chance : Chance) (request : VmRequest)
    (schedule : Schedule) (now n : Nat) (cloud : Cloud) (h₀ : Orderly cloud.resources)
    (hspare : schedule.SparesCleanUp) (hcloud : cloud.SparesCleanUp) :
    let o := (createVm settings chance request).run.run schedule.backend now (n, cloud)
    ∀ e, o.result = .error e → NoTrace cloud.resources o.state.2.resources := by
  intro o e he
  have hleft : Left cloud.resources o.result o.state := by
    refine ((tracked_built h₀ schedule request).ensures_createVm ⟨.refl _, hcloud⟩ ?_ ?_).of_run
    · exact fun vm p x _ _ _ => trivial
    · exact fun e p x h => dropTrail_of_built h₀ hspare h.1 h.2
  rw [he] at hleft
  exact hleft

/-- A request for a server on one network with a port and in one pool. -/
def pooledRequest : VmRequest where
  agentId := "agent"
  stemcellId := "image"
  properties := { instanceType := "small", pools := [⟨"web", 80, none⟩] }
  networks := .ofList [("private", { kind := .manual, ip := some "10.0.0.2" })]
  diskIds := []
  environment := .null

/-- A volume that a server holds. -/
def heldVolume : Volume where
  id := "disk"
  name := "disk"
  sizeGib := 10
  status := .inUse
  attachments := [⟨"disk", "vm", "/dev/sdb"⟩]
  metadata := ∅
  zone := none

/-- A cloud that has what the request needs, and a server that holds a volume. -/
def busyCloud : Cloud :=
  { resources :=
      (({ volumes := (∅ : Table Volume).insert "disk" heldVolume } : Resources).addServer
        "vm" "small").addImage "image" |>.addPool "web" }

/-- Metadata cannot be changed. -/
def refusingTags : Schedule
  | _, .updateMetadata _ _ => some (.api "out of order")
  | _, _ => none

theorem eq_heldVolume {id : String} {v : Volume}
    (h : busyCloud.resources.volumes.get? id = some v) : v = heldVolume :=
  Table.eq_of_get?_singleton h rfl

theorem orderly_busyCloud : Orderly busyCloud.resources where
  servers := by
    intro id hid
    have hne : id ≠ "vm" := by
      rintro rfl
      exact absurd hid.prefix_id (by decide)
    exact Table.get?_insert_of_ne ∅ _ hne
  serverPorts _ := rfl
  ports _ := rfl
  attached := by
    intro id v hv a ha
    rw [eq_heldVolume hv] at ha
    rw [List.mem_singleton.1 ha]
    rfl
  held := by
    intro id v hv _
    rw [eq_heldVolume hv]
    exact List.cons_ne_nil _ _

/-- A server that joins its pool but cannot be tagged is gone with its port, and the
    member of the pool is not. -/
theorem createVm_leaves_no_trace_untagged :
    let o := (createVm {} default pooledRequest).run.run refusingTags.backend 0 (0, busyCloud)
    (∀ e, o.result = .error e → NoTrace busyCloud.resources o.state.2.resources) ∧
      o.result.toOption = none ∧ o.state.2.resources.members.keys = ["member-3"] := by
  refine ⟨?_, by decide, by decide⟩
  refine createVm_leaves_no_trace {} default pooledRequest refusingTags 0 0 busyCloud
    orderly_busyCloud ?_ ?_
  · intro n c hc
    cases c <;> first | rfl | cases hc
  · exact fun _ _ => rfl

end Lifecycle

end CloudProvider
