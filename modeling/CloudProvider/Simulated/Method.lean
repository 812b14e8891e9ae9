import CloudProvider.Simulated.Resources

/-!
# Methods

How simulated resources go about a call: by statements that look something up, change a
table or give an id out, one after the other. A statement that fails ends the method, and
what has been changed by then stays changed. That nothing ever is, because every method
looks everything up before it changes anything, is a fact about the methods
(`amounts_ofCall`), not about how they are run.

* `Method.ofCall`: the statements of a call;
* `Method.perform`: how a method ends, and the resources it leaves;
* `amounts_ofCall`: it does what `Resources.answer` does all at once, and one that fails
  leaves the resources as they were.
-/

namespace CloudProvider

/-- Statements about resources. The first that fails ends them, but takes nothing back. -/
abbrev Method (α : Type) := ExceptT CloudError (StateM Resources) α

namespace Method

variable {α β : Type}

/-- Go through the statements of a method: how it ends, and the resources it leaves. -/
def perform (m : Method α) (s : Resources) : Except CloudError α × Resources :=
  (ExceptT.run m).run s

/-! ## Statements -/

/-- Read something off the resources. -/
def look (read : Resources → Except CloudError α) : Method α := do
  MonadExcept.ofExcept (read (← get))

/-- Look a resource up. -/
def find (table : Resources → Table α) (kind id : String) : Method α :=
  look fun s => Resources.find (table s) kind id

/-- Give an id out. -/
def issue (kind : String) : Method String := do
  let id := (← get).nextId kind
  modify fun s => { s with issued := s.issued + 1 }
  return id

/-- Take a resource out of its table, and fail afterwards if there was none. -/
def remove (table : Resources → Table α) (put : Table α → Resources → Resources)
    (kind id : String) : Method Unit := do
  let removed := Resources.find (table (← get)) kind id
  modify fun s => put ((table s).erase id) s
  let _ ← MonadExcept.ofExcept removed

/-! ## Calls -/

/-- Create a server, and list its ports. -/
def createServer (r : ServerRequest) : Method Server := do
  let id ← issue "server"
  let flavors := (← get).flavors
  let server : Server := {
    id := id
    name := r.name
    status := .active
    flavorId :=
      ((flavors.find? (·.name = r.properties.instanceType)).map (·.id)).getD
        r.properties.instanceType
    metadata := ∅
    zone := r.zone.or (some Resources.standardZone) }
  modify fun s => { s with serverPorts := s.serverPorts.insert id r.networks.portIds }
  modify fun s => { s with servers := s.servers.insert id server }
  return server

/-- Delete a server, release its volumes, and forget which ports it has. -/
def deleteServer (id : String) : Method Unit := do
  remove (·.servers) (fun t s => { s with servers := t }) "server" id
  modify fun s => { s with volumes := s.volumes.map (Resources.releaseFrom id) }
  modify fun s => { s with serverPorts := s.serverPorts.erase id }

/-- List the attachments to a server. -/
def listAttachments (serverId : String) : Method (List Attachment) := do
  let _ ← find (·.servers) "server" serverId
  return ((← get).attachmentsTo serverId).mergeSort fun a b => a.device ≤ b.device

/-- Change a server. -/
def updateServer (id : String) (change : Server → Server) : Method Unit := do
  let server ← find (·.servers) "server" id
  modify fun s => { s with servers := s.servers.insert id (change server) }

/-- Change a volume. -/
def updateVolume (id : String) (change : Volume → Volume) : Method Unit := do
  let v ← find (·.volumes) "volume" id
  modify fun s => { s with volumes := s.volumes.insert id (change v) }

/-- Attach a volume to a server. -/
def attachVolume (serverId volumeId device : String) : Method Attachment := do
  let _ ← find (·.servers) "server" serverId
  let device := ((← get).reportedDevices.get? volumeId).getD device
  let a : Attachment := ⟨volumeId, serverId, device⟩
  let v ← find (·.volumes) "volume" volumeId
  modify fun s =>
    { s with
      volumes := s.volumes.insert volumeId
        { v with attachments := v.attachments ++ [a], status := .inUse } }
  return a

/-- Detach a volume from a server. -/
def detachVolume (serverId volumeId : String) : Method Unit :=
  updateVolume volumeId fun v =>
    let attachments := v.attachments.filter (·.serverId ≠ serverId)
    { v with
      attachments := attachments
      status := if attachments.isEmpty then .available else v.status }

/-- Create a port. -/
def createPort (n : Network) : Method Port := do
  let port : Port := ⟨← issue "port", n.netId, n.ip, none⟩
  modify fun s => { s with ports := s.ports.insert port.id port }
  return port

/-- Delete some ports, one after the other. -/
def deletePorts (ports : List Port) : Method Unit :=
  ports.forM fun p => modify fun s => { s with ports := s.ports.erase p.id }

/-- Create a volume. -/
def createVolume (r : VolumeRequest) : Method Volume := do
  let v : Volume := {
    id := ← issue "volume"
    name := r.name
    sizeGib := r.sizeGib
    status := .available
    attachments := []
    metadata := ∅
    zone := r.zone }
  modify fun s => { s with volumes := s.volumes.insert v.id v }
  return v

/-- Create a snapshot of a volume. -/
def createSnapshot (r : SnapshotRequest) : Method Snapshot := do
  let _ ← find (·.volumes) "volume" r.volumeId
  let snapshot : Snapshot := {
    id := ← issue "snapshot"
    name := r.name
    volumeId := r.volumeId
    status := .available
    description := r.description
    metadata := r.metadata }
  modify fun s => { s with snapshots := s.snapshots.insert snapshot.id snapshot }
  return snapshot

/-- Add an address to a pool. -/
def createMember (pool : Pool) (ip : String) (b : PoolBinding) : Method PoolMember := do
  let m : PoolMember := ⟨← issue "member", pool.id, ip, b.port⟩
  modify fun s => { s with members := s.members.insert m.id m }
  return m

/-- The statements of a call. -/
def ofCall : (c : Call) → Method c.Answer
  | .openService _ => pure ()
  | .createServer r => createServer r
  | .getServer id => find (·.servers) "server" id
  | .deleteServer id => deleteServer id
  | .listAttachments id => listAttachments id
  | .attachVolume server volume device => attachVolume server volume device
  | .detachVolume server volume => detachVolume server volume
  | .getFlavor id =>
    look fun s =>
      match s.flavors.find? (·.id = id) with
      | some f => .ok f
      | none => .error (.notFound "flavor" id)
  | .matchFlavor r boot =>
    look fun s =>
      match Flavor.smallest? (s.flavors.filter (·.meets r boot)) with
      | some f => .ok f
      | none => .error (.notFound "flavor" "matching")
  | .getMetadata id => return (← find (·.servers) "server" id).metadata
  | .updateMetadata id m =>
    updateServer id fun server => { server with metadata := server.metadata.union m }
  | .deleteMetadata id keys =>
    updateServer id fun server =>
      { server with metadata := keys.foldl (fun t k => t.erase k) server.metadata }
  | .renameServer id name => updateServer id fun server => { server with name := name }
  | .rebootServer id => do let _ ← find (·.servers) "server" id
  | .getServerZone id =>
    return (← find (·.servers) "server" id).zone.getD Resources.standardZone
  | .resolveNetworks spec _ => look fun _ => NetworkSpec.resolve spec
  | .createPort n _ => createPort n
  | .getPorts id => return (((← get).serverPorts.get? id).getD []).filterMap (← get).ports.get?
  | .deletePorts ports => deletePorts ports
  | .configureVip id _ => do let _ ← find (·.servers) "server" id
  | .getSubnet id => return "subnet-" ++ id
  | .getImage id => do
    let _ ← find (·.images) "image" id
    return id
  | .createVolume r => createVolume r
  | .getVolume id => do
    let v ← find (·.volumes) "volume" id
    return { v with status := ((← get).pinnedStatuses.get? id).getD v.status }
  | .deleteVolume id => do
    remove (·.volumes) (fun t s => { s with volumes := t }) "volume" id
    return ()
  | .extendVolume id size => updateVolume id fun v => { v with sizeGib := size }
  | .setVolumeMetadata id m =>
    updateVolume id fun v => { v with metadata := v.metadata.union m }
  | .createSnapshot r => createSnapshot r
  | .getSnapshot id => find (·.snapshots) "snapshot" id
  | .deleteSnapshot id => do
    remove (·.snapshots) (fun t s => { s with snapshots := t }) "snapshot" id
    return ()
  | .getPool name => find (·.pools) "pool" name
  | .createMember pool ip b _ _ => createMember pool ip b
  | .deleteMember _ member _ => modify fun s => { s with members := s.members.erase member }

/-! ## All at once -/

/-- A method amounts to an answer: it does what the answer says, or fails and leaves the
    resources as they were. -/
def Amounts (m : Method α) (s : Resources) : Except CloudError (Resources.After α) → Prop
  | .ok (a, s') => m.perform s = (.ok a, s')
  | .error e => m.perform s = (.error e, s)

variable {s s' : Resources} {m : Method α} {f : α → Method β}

theorem perform_bind (m : Method α) (f : α → Method β) (s : Resources) :
    (m >>= f).perform s =
      (ExceptT.bindCont (m := StateM Resources) f (m.perform s).1).run (m.perform s).2 := rfl

theorem perform_bind_ok {a : α} (h : m.perform s = (.ok a, s')) :
    (m >>= f).perform s = (f a).perform s' := by
  rw [perform_bind, h]
  rfl

theorem perform_bind_error {e : CloudError} (h : m.perform s = (.error e, s')) :
    (m >>= f).perform s = (.error e, s') := by
  rw [perform_bind, h]
  rfl

theorem perform_look (read : Resources → Except CloudError α) (s : Resources) :
    (look read).perform s = (read s, s) := by
  show (MonadExcept.ofExcept (read s) : Method α).perform s = _
  cases read s <;> rfl

theorem amounts_look (read : Resources → Except CloudError α) (s : Resources) :
    (look read).Amounts s (s.unchanged (read s)) := by
  have hlook := perform_look read s
  cases hread : read s with
  | error e => exact hlook.trans (by rw [hread])
  | ok a => exact hlook.trans (by rw [hread])

/-- What is looked up first may fail; nothing has changed by then. -/
theorem amounts_find_bind {table : Resources → Table α} {kind id : String}
    {g : α → Except CloudError (Resources.After β)}
    (h : ∀ a, (table s).get? id = some a → (f a).Amounts s (g a)) :
    (find table kind id >>= f).Amounts s (Resources.find (table s) kind id >>= g) := by
  have hfind : (find table kind id).perform s = (Resources.find (table s) kind id, s) :=
    perform_look _ s
  cases hget : (table s).get? id with
  | none =>
    have hnone : Resources.find (table s) kind id = .error (.notFound kind id) := by
      rw [Resources.find, hget]
    rw [hnone] at hfind ⊢
    exact perform_bind_error hfind
  | some a =>
    have hsome : Resources.find (table s) kind id = .ok a := by
      rw [Resources.find, hget]
    rw [hsome] at hfind ⊢
    have hf := h a hget
    show Amounts _ s (g a)
    cases hg : g a with
    | error e =>
      rw [hg] at hf
      exact (perform_bind_ok hfind).trans hf
    | ok r =>
      rw [hg] at hf
      exact (perform_bind_ok hfind).trans hf

/-- What is made of something looked up. -/
theorem amounts_find_map {table : Resources → Table α} {kind id : String} {g : α → β}
    (h : ∀ a, (f a).perform s = (.ok (g a), s)) :
    (find table kind id >>= f).Amounts s
      (s.unchanged ((Resources.find (table s) kind id).map g)) := by
  have hfind : (find table kind id).perform s = (Resources.find (table s) kind id, s) :=
    perform_look _ s
  cases hread : Resources.find (table s) kind id with
  | error e =>
    rw [hread] at hfind
    exact perform_bind_error hfind
  | ok a =>
    rw [hread] at hfind
    exact (perform_bind_ok hfind).trans (h a)

/-- To take out what is not there changes nothing, so the check may come afterwards. -/
theorem amounts_remove {table : Resources → Table α} {put : Table α → Resources → Resources}
    {kind id : String} {rest : Method Unit} {after : Resources}
    (hput : put (table s) s = s)
    (hrest : rest.perform (put ((table s).erase id) s) = (.ok (), after)) :
    (do remove table put kind id; rest : Method Unit).Amounts s
      (do let _ ← Resources.find (table s) kind id; return ((), after)) := by
  have hremove : (remove table put kind id).perform s =
      ((Resources.find (table s) kind id).map fun _ => (), put ((table s).erase id) s) := by
    show (do let _ ← MonadExcept.ofExcept (Resources.find (table s) kind id) :
      Method Unit).perform (put ((table s).erase id) s) = _
    cases Resources.find (table s) kind id <;> rfl
  unfold Resources.find at *
  cases hget : (table s).get? id with
  | none =>
    rw [hget, Table.erase_eq_self hget, hput] at hremove
    exact perform_bind_error hremove
  | some a =>
    rw [hget] at hremove
    exact (perform_bind_ok hremove).trans hrest

theorem perform_deletePorts (ports : List Port) (s : Resources) :
    (deletePorts ports).perform s =
      (.ok (), { s with ports := ports.foldl (fun t p => t.erase p.id) s.ports }) := by
  induction ports generalizing s with
  | nil => rfl
  | cons p ports ih => exact ih { s with ports := s.ports.erase p.id }

theorem amounts_updateServer (id : String) (change : Server → Server) (s : Resources) :
    (updateServer id change).Amounts s (s.updateServer id change) :=
  amounts_find_bind fun _ _ => rfl

theorem amounts_updateVolume (id : String) (change : Volume → Volume) (s : Resources) :
    (updateVolume id change).Amounts s (s.updateVolume id change) :=
  amounts_find_bind fun _ _ => rfl

/-- Every method does all at once. -/
theorem amounts_ofCall (c : Call) (s : Resources) :
    (ofCall c).Amounts s (Resources.answer c s) := by
  cases c with
  | openService _ | createServer _ | createPort _ _ | getPorts _ | getSubnet _ | createVolume _
  | createMember _ _ _ _ _ | deleteMember _ _ _ => rfl
  | deletePorts ports => exact perform_deletePorts ports s
  | getServer _ | getFlavor _ | matchFlavor _ _ | resolveNetworks _ _ | getSnapshot _
  | getPool _ => exact amounts_look _ s
  | updateMetadata _ _ | deleteMetadata _ _ | renameServer _ _ =>
    exact amounts_updateServer _ _ s
  | detachVolume _ _ | extendVolume _ _ | setVolumeMetadata _ _ =>
    exact amounts_updateVolume _ _ s
  | listAttachments _ | createSnapshot _ => exact amounts_find_bind fun _ _ => rfl
  | attachVolume _ _ _ => exact amounts_find_bind fun _ _ => amounts_find_bind fun _ _ => rfl
  | deleteServer _ | deleteVolume _ | deleteSnapshot _ => refine amounts_remove ?_ ?_ <;> rfl
  | getMetadata _ | rebootServer _ | configureVip _ _ | getServerZone _ | getImage _
  | getVolume _ => exact amounts_find_map fun _ => rfl

theorem perform_of_ok {c : Call} {a : c.Answer} (h : Resources.answer c s = .ok (a, s')) :
    (ofCall c).perform s = (.ok a, s') := by
  have hcall := amounts_ofCall c s
  rw [h] at hcall
  exact hcall

theorem perform_of_error {c : Call} {e : CloudError} (h : Resources.answer c s = .error e) :
    (ofCall c).perform s = (.error e, s) := by
  have hcall := amounts_ofCall c s
  rw [h] at hcall
  exact hcall

end Method

end CloudProvider
