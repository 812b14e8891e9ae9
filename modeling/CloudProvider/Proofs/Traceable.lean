import CloudProvider.Proofs.Avoidance
import CloudProvider.Proofs.Served

/-!
# What belongs to a server

The deletion of a server finds its places in pools by the tags in its metadata, and its
ports by what the cloud remembers about them. Nothing that is done to other servers, to
disks or to snapshots changes either, and for the server itself only its deletion and
metadata under the names of tags do.

* `Resources.Traceable`: the server exists, and so much belongs to it;
* `Call.Obscures`: the calls after which this may be so no more;
* `Traceable.serve`: no other call loses anything;
* `Command.Spares`, `Traceable.ensures_operation`: nor does an operation that spares the
  server.
-/

namespace CloudProvider

open Program Lifecycle

/-- A server with the tags of some memberships and with some ports. -/
structure Resources.Traceable (vmId : String) (portIds : List String) (ms : List Membership)
    (s : Resources) : Prop where
  tagged : ∃ server, s.servers.get? vmId = some server ∧ ∀ name,
    Membership.isTagName name = true →
      server.metadata.get? name = (Membership.tags ms).get? name
  plugged : s.serverPorts.get? vmId = some portIds
  /-- A port that still exists goes by the id it is remembered by. -/
  named {id port} : id ∈ portIds → s.ports.get? id = some port → port.id = id
  /-- No other server is given the same id. -/
  issued : ¬ s.Unissued "server" vmId

/-- Whether a call may change the tags of a server, or deletes it. -/
def Call.Obscures (vmId : String) : Call → Prop
  | .deleteServer id => id = vmId
  | .updateMetadata id metadata =>
    id = vmId ∧ ∃ name, Membership.isTagName name = true ∧ metadata.contains name = true
  | .deleteMetadata id names =>
    id = vmId ∧ ∃ name ∈ names, Membership.isTagName name = true
  | _ => False

namespace Resources.Traceable

variable {s s' : Resources} {vmId id : String} {portIds : List String} {ms : List Membership}

/-! ## Calls -/

theorem of_eq (h : s.Traceable vmId portIds ms) (hissued : s.issued ≤ s'.issued)
    (hservers : s'.servers = s.servers) (hserverPorts : s'.serverPorts = s.serverPorts)
    (hports : s'.ports = s.ports) : s'.Traceable vmId portIds ms where
  tagged := by rw [hservers]; exact h.tagged
  plugged := by rw [hserverPorts]; exact h.plugged
  named hid := by rw [hports]; exact h.named hid
  issued hid := h.issued (hid.mono hissued)

theorem createServer (h : s.Traceable vmId portIds ms) {r : ServerRequest} {server : Server}
    (hs : s.createServer r = .ok (server, s')) : s'.Traceable vmId portIds ms := by
  cases hs
  have hne : vmId ≠ s.nextId "server" := fun heq => h.issued (heq ▸ s.unissued_nextId "server")
  exact {
    tagged := by
      rw [Table.get?_insert_of_ne _ _ hne]
      exact h.tagged
    plugged := (Table.get?_insert_of_ne _ _ hne).trans h.plugged
    named := h.named
    issued := fun hid => h.issued (hid.mono (Nat.le_succ _)) }

/-- A change to a server that leaves the tags of this one alone. -/
theorem updateServer (h : s.Traceable vmId portIds ms) {change : Server → Server} {a : Unit}
    (hs : s.updateServer id change = .ok (a, s'))
    (hchange : id = vmId → ∀ server name, Membership.isTagName name = true →
      (change server).metadata.get? name = server.metadata.get? name) :
    s'.Traceable vmId portIds ms := by
  obtain ⟨found, hfound, hs⟩ := find_bind_ok hs
  cases hs
  refine { h with tagged := ?_ }
  by_cases hid : vmId = id
  · obtain ⟨server, hserver, htags⟩ := h.tagged
    obtain rfl : server = found := Option.some.inj (hserver.symm.trans (hid ▸ hfound))
    refine ⟨change server, by rw [hid, Table.get?_insert_self], fun name hname => ?_⟩
    exact (hchange hid.symm server name hname).trans (htags name hname)
  · rw [Table.get?_insert_of_ne _ _ hid]
    exact h.tagged

theorem deleteServer (h : s.Traceable vmId portIds ms) (hid : id ≠ vmId) {a : Unit}
    (hs : s.deleteServer id = .ok (a, s')) : s'.Traceable vmId portIds ms := by
  obtain ⟨server, -, hs⟩ := find_bind_ok hs
  cases hs
  exact { h with
    tagged := by
      rw [Table.get?_erase_of_ne _ hid.symm]
      exact h.tagged
    plugged := (Table.get?_erase_of_ne _ hid.symm).trans h.plugged }

theorem createPort (h : s.Traceable vmId portIds ms) {network : Network} {port : Port}
    (hs : s.createPort network = .ok (port, s')) : s'.Traceable vmId portIds ms := by
  cases hs
  refine { h with named := fun {id port} hid hport => ?_, issued := fun hid => ?_ }
  · rw [Table.get?_insert] at hport
    split at hport
    · rename_i heq
      exact Option.some.inj hport ▸ heq.symm
    · exact h.named hid hport
  · exact h.issued (hid.mono (Nat.le_succ _))

theorem deletePorts (h : s.Traceable vmId portIds ms) {ports : List Port} {a : Unit}
    (hs : s.deletePorts ports = .ok (a, s')) : s'.Traceable vmId portIds ms := by
  cases hs
  have hports : ports.foldl (fun t port => t.erase port.id) s.ports =
      s.ports.eraseAll (ports.map (·.id)) := by
    rw [Table.eraseAll, List.foldl_map]
  refine { h with named := fun {id port} hid hport => h.named hid ?_ }
  rw [hports, Table.get?_eraseAll] at hport
  split at hport
  · cases hport
  · exact hport

theorem answer (h : s.Traceable vmId portIds ms) {c : Call} (hc : ¬ c.Obscures vmId)
    {a : c.Answer} (hs : Resources.answer c s = .ok (a, s')) : s'.Traceable vmId portIds ms := by
  cases hidle : c.isIdle with
  | true =>
    rw [eq_of_isIdle hidle hs]
    exact h
  | false =>
    cases c with
    | createServer r => exact h.createServer hs
    | deleteServer id => exact h.deleteServer hc hs
    | createPort network groups => exact h.createPort hs
    | deletePorts ports => exact h.deletePorts hs
    | renameServer id name => exact h.updateServer hs fun _ _ _ _ => rfl
    | updateMetadata id metadata =>
      refine h.updateServer hs fun hid server name hname => ?_
      have hnone : metadata.get? name = none :=
        Option.not_isSome_iff_eq_none.1 fun hsome => hc ⟨hid, name, hname, hsome⟩
      rw [Table.get?_union, hnone]
      rfl
    | deleteMetadata id names =>
      refine h.updateServer hs fun hid server name hname => ?_
      exact (Table.get?_eraseAll _ _ _).trans (if_neg fun hmem => hc ⟨hid, name, hmem, hname⟩)
    | deleteMember _ _ _ =>
      cases hs
      exact h.of_eq (Nat.le_refl _) rfl rfl rfl
    | createVolume _ | createMember _ _ _ _ _ =>
      cases hs
      exact h.of_eq (Nat.le_succ _) rfl rfl rfl
    | detachVolume _ id | deleteVolume id | extendVolume id _ | setVolumeMetadata id _
    | deleteSnapshot id =>
      obtain ⟨found, -, hs⟩ := find_bind_ok hs
      cases hs
      exact h.of_eq (Nat.le_refl _) rfl rfl rfl
    | attachVolume serverId volumeId device =>
      obtain ⟨server, -, hs⟩ := find_bind_ok hs
      obtain ⟨v, -, hs⟩ := find_bind_ok hs
      cases hs
      exact h.of_eq (Nat.le_refl _) rfl rfl rfl
    | createSnapshot r =>
      obtain ⟨-, -, hs⟩ := find_bind_ok hs
      cases hs
      exact h.of_eq (Nat.le_succ _) rfl rfl rfl
    | _ => cases hidle

theorem serve (h : s.Traceable vmId portIds ms) {c : Call} (hc : ¬ c.Obscures vmId)
    {r : Except CloudError c.Answer} (hs : s.serve c = (r, s')) :
    s'.Traceable vmId portIds ms := by
  cases r with
  | ok a => exact h.answer hc (answer_of_serve_ok hs)
  | error e =>
    rw [eq_of_serve_error hs]
    exact h

/-! ## Operations -/

theorem ensures_of_avoids {α : Type} {p : Operation α}
    (hp : Operation.Avoids (Call.Obscures vmId) p) (h : s.Traceable vmId portIds ms) :
    p.run.Ensures serving (fun _ s' => s'.Traceable vmId portIds ms) s :=
  hp.ensures (I := fun s : Resources => s.Traceable vmId portIds ms)
    (fun _ _ h hc => ⟨trivial, fun _ _ hl => h.serve hc hl⟩) (fun _ _ h => h) h

/-- What is done for another server does not concern this one. -/
theorem not_obscures_of_admits {p : Progress} (hp : p.serverId ≠ some vmId) {c : Call}
    (hc : p.Admits c) : ¬ c.Obscures vmId := by
  cases c with
  | updateMetadata id metadata =>
    rintro ⟨rfl, -⟩
    exact hp hc
  | deleteServer _ | deleteMetadata _ _ => exact hc.elim
  | _ => exact id

/-- A server that is created is another server. -/
theorem serverId_after (h : s.Traceable vmId portIds ms) {p : Progress}
    (hp : p.serverId ≠ some vmId) {c : Call} {a : c.Answer}
    (hs : Resources.answer c s = .ok (a, s')) : (p.after c a).serverId ≠ some vmId := by
  cases c with
  | createServer r =>
    cases hs
    exact fun heq => h.issued (Option.some.inj heq ▸ s.unissued_nextId "server")
  | _ => exact hp

/-- A server is kept traceable by those who create another. -/
def TraceableBeside (vmId : String) (portIds : List String) (ms : List Membership) (p : Progress)
    (s : Resources) : Prop := s.Traceable vmId portIds ms ∧ p.serverId ≠ some vmId

theorem tracked (vmId : String) (portIds : List String) (ms : List Membership)
    (request : VmRequest) :
    Tracked serving request (TraceableBeside vmId portIds ms)
      (fun p _ => TraceableBeside vmId portIds ms p)
      fun p _ => TraceableBeside vmId portIds ms p := by
  refine tracked_of_invariant (fun _ _ => trivial) ?_ ?_ id
  · rintro p c s took a s' hc ⟨h, hp⟩ hl
    exact ⟨h.serve (not_obscures_of_admits hp hc) hl, h.serverId_after hp (answer_of_serve_ok hl)⟩
  · rintro p c s took e s' hc ⟨h, hp⟩ hl
    exact ⟨h.serve (not_obscures_of_admits hp hc) hl, hp⟩

theorem dropServer (h : s.Traceable vmId portIds ms) {serverId : Option String}
    (hserverId : serverId ≠ some vmId) :
    DropServer serving (fun s => s.Traceable vmId portIds ms) serverId s := by
  cases serverId with
  | none => exact h
  | some id =>
    have hid : id ≠ vmId := fun heq => hserverId (congrArg some heq)
    exact ⟨trivial, fun reply s' hl => h.serve (c := .deleteServer id) hid hl⟩

/-- Another server is created, or fails to be. -/
theorem ensures_createVm {settings : Settings} {chance : Chance} {request : VmRequest}
    (h : s.Traceable vmId portIds ms) :
    (createVm settings chance request).run.Ensures serving
      (fun _ s' => s'.Traceable vmId portIds ms) s := by
  refine (tracked vmId portIds ms request).ensures_createVm ⟨h, nofun⟩
    (fun _ _ _ _ _ h => h.1) fun e p s ⟨h, hp⟩ => ?_
  unfold DropTrail
  split
  · exact h.dropServer hp
  · exact ⟨trivial, fun reply s' hl => (h.serve (c := .deletePorts _) id hl).dropServer hp⟩

end Resources.Traceable

namespace Lifecycle.Command

variable {vmId : String}

/-- Whether an operation leaves a server its tags and does not delete it. -/
def Spares (vmId : String) : Command → Prop
  | deleteVm id => id ≠ vmId
  | setVmMetadata id metadata =>
    id = vmId → ∀ name, Membership.isTagName name = true → metadata.get? name = none
  | _ => True

theorem makesNo_obscures {c : Command} (hc : c.Spares vmId)
    (hcreate : ∀ request, c ≠ createVm request) : c.MakesNo (Call.Obscures vmId) := by
  intro call hcall hobscures
  cases call with
  | deleteServer id =>
    cases c with
    | createVm request => exact hcreate request rfl
    | deleteVm vmId' => exact hc (hcall.symm.trans hobscures)
    | _ => exact hcall
  | updateMetadata id texts =>
    cases c with
    | createVm request => exact hcreate request rfl
    | setVmMetadata vmId' metadata =>
      obtain ⟨rfl, rfl⟩ := hcall
      obtain ⟨hid, name, hname, hcontains⟩ := hobscures
      -- What the caller does not name is not among the texts.
      rw [Table.contains, CallerMetadata.toMetadata, Table.get?_filterMap, hc hid name hname]
        at hcontains
      cases hcontains
    | _ => exact hcall
  | deleteMetadata id names => cases c <;> exact hcall
  | _ => exact hobscures

end Lifecycle.Command

open Lifecycle

/-- An operation that spares a server leaves all that belongs to it. -/
theorem Resources.Traceable.ensures_operation {s : Resources} {vmId : String}
    {portIds : List String} {ms : List Membership} (h : s.Traceable vmId portIds ms)
    (settings : Settings) (chance : Chance) {c : Command} (hc : c.Spares vmId) :
    (c.operation settings chance).run.Ensures serving
      (fun _ s' => s'.Traceable vmId portIds ms) s := by
  -- A creation deletes servers when it fails, but only its own.
  by_cases hcreate : ∃ request, c = .createVm request
  · obtain ⟨request, rfl⟩ := hcreate
    exact h.ensures_createVm
  · have hmakes := Command.makesNo_obscures hc (not_exists.1 hcreate)
    exact ensures_of_avoids (Command.avoids settings chance hmakes) h

end CloudProvider
