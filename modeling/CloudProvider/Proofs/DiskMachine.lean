import CloudProvider.Lifecycle.Command

/-!
# A machine of disks

What the operations on disks do, without the cloud they do it on. There are servers,
and there are disks, each of some size and held by one server or by none.

* `DiskCommand`: the operations that the machine knows;
* `DiskMachine.step`: what each of them tells, and what it makes of the machine.
-/

namespace CloudProvider.Lifecycle

/-- An operation on disks, or one that sets disks free. -/
inductive DiskCommand where
  | create (sizeMib : UInt32) (properties : DiskProperties) (vmId : Option String)
  | attach (vmId diskId : String)
  | detach (vmId diskId : String)
  | resize (diskId : String) (sizeGib : UInt32)
  | delete (diskId : String)
  | has (diskId : String)
  | list (vmId : String)
  | deleteVm (vmId : String)
  deriving Inhabited

/-- The lifecycle operation that is meant. -/
abbrev DiskCommand.command : DiskCommand → Command
  | create sizeMib properties vmId => .createDisk sizeMib properties vmId
  | attach vmId diskId => .attachDisk vmId diskId
  | detach vmId diskId => .detachDisk vmId diskId
  | resize diskId sizeGib => .resizeDisk diskId sizeGib
  | delete diskId => .deleteDisk diskId
  | has diskId => .hasDisk diskId
  | list vmId => .getDisks vmId
  | deleteVm vmId => .deleteVm vmId

/-- A disk, and the server that holds it. -/
structure Disk where
  sizeGib : UInt32
  holder : Option String
  deriving DecidableEq, Inhabited

/-- A disk after a server is gone. -/
def Disk.release (vmId : String) (d : Disk) : Disk :=
  if d.holder = some vmId then { d with holder := none } else d

/-- The servers that exist, and the disks. -/
structure DiskMachine where
  vms : Table Unit
  disks : Table Disk
  deriving DecidableEq, Inhabited

namespace DiskMachine

/-- The disks that a server holds. -/
def held (m : DiskMachine) (vmId : String) : List String :=
  (m.disks.entries.filter fun e => e.2.holder = some vmId).map (·.1)

theorem mem_held {m : DiskMachine} {vmId diskId : String} :
    diskId ∈ m.held vmId ↔ ∃ d, m.disks.get? diskId = some d ∧ d.holder = some vmId := by
  simp only [held, List.mem_map, List.mem_filter, decide_eq_true_eq]
  constructor
  · rintro ⟨⟨id, d⟩, ⟨hentry, hholder⟩, rfl⟩
    exact ⟨d, Table.mem_entries.1 hentry, hholder⟩
  · rintro ⟨d, hd, hholder⟩
    exact ⟨(diskId, d), ⟨Table.mem_entries.2 hd, hholder⟩, rfl⟩

/-- Put a disk in place. -/
def put (m : DiskMachine) (diskId : String) (d : Disk) : DiskMachine :=
  { m with disks := m.disks.insert diskId d }

/-- Why a disk cannot be put near a server. -/
def zoneFault (settings : Settings) (m : DiskMachine) : Option String → Option OperationError
  | some vmId =>
    if settings.ignoreServerZone || m.vms.contains vmId then none
    else some <| .cloud ("Failed to get availability zone of VM '" ++ vmId ++ "'")
      (.notFound "server" vmId)
  | none => none

/-- Create a disk under a fresh id. -/
def create (settings : Settings) (fresh : String) (sizeMib : UInt32) (vmId : Option String)
    (m : DiskMachine) : Except OperationError String × DiskMachine :=
  if sizeMib < minDiskSizeMib then (.error (.validation "Minimum disk size is 1 GiB"), m)
  else
    match m.zoneFault settings vmId with
    | some e => (.error e, m)
    | none => (.ok fresh, m.put fresh ⟨gibFor sizeMib, none⟩)

/-- Attach a disk to a server that has some letters reserved for other devices. -/
def attach (reserved : Nat) (vmId diskId : String) (m : DiskMachine) :
    Except OperationError Unit × DiskMachine :=
  match m.disks.get? diskId with
  | none => (.error (.notFound "disk" diskId), m)
  | some ⟨_, some holder⟩ =>
    if holder = vmId then (.ok (), m)
    else
      (.error (.conflict
        ("Volume '" ++ diskId ++ "' is attached to another VM '" ++ holder ++ "'")), m)
  | some ⟨sizeGib, none⟩ =>
    if ! m.vms.contains vmId then (.error (.notFound "VM" vmId), m)
    else if 25 - reserved ≤ (m.held vmId).length then (.error (.noFreeDeviceLetter vmId), m)
    else (.ok (), m.put diskId ⟨sizeGib, some vmId⟩)

/-- Detach a disk from a server. -/
def detach (vmId diskId : String) (m : DiskMachine) : Except OperationError Unit × DiskMachine :=
  if ! m.vms.contains vmId then (.error (.notFound "VM" vmId), m)
  else if diskId ∈ m.held vmId then
    (.ok (), { m with disks := m.disks.modify diskId fun d => { d with holder := none } })
  else (.ok (), m)

/-- Grow a disk that no server holds. -/
def resize (diskId : String) (sizeGib : UInt32) (m : DiskMachine) :
    Except OperationError Unit × DiskMachine :=
  match m.disks.get? diskId with
  | none => (.error (.notFound "disk" diskId), m)
  | some d =>
    if d.holder.isSome then
      (.error (.validation ("Cannot resize volume '" ++ diskId ++ "' due to attachments")), m)
    else if sizeGib < d.sizeGib then
      (.error (.validation
        ("Cannot resize volume '" ++ diskId ++ "' to a smaller size from " ++
          toString d.sizeGib.toNat ++ " GiB to " ++ toString sizeGib.toNat ++ " GiB")), m)
    else if sizeGib = d.sizeGib then (.ok (), m)
    else (.ok (), m.put diskId { d with sizeGib := sizeGib })

/-- Delete a disk that no server holds. -/
def delete (diskId : String) (m : DiskMachine) : Except OperationError Unit × DiskMachine :=
  match m.disks.get? diskId with
  | none => (.ok (), m)
  | some d =>
    if d.holder.isSome then
      (.error (.conflict
        ("Cannot delete volume '" ++ diskId ++ "', state is '" ++
          VolumeStatus.inUse.text ++ "'")), m)
    else (.ok (), { m with disks := m.disks.erase diskId })

/-- The disks of a server, in no order in particular. -/
def list (vmId : String) (m : DiskMachine) : Except OperationError (List String) × DiskMachine :=
  if m.vms.contains vmId then (.ok (m.held vmId), m) else (.error (.notFound "VM" vmId), m)

/-- Delete a server, which sets its disks free. -/
def deleteVm (vmId : String) (m : DiskMachine) : DiskMachine :=
  ⟨m.vms.erase vmId, m.disks.map (Disk.release vmId)⟩

/-- What a command tells, and what it makes of the machine, given the number of letters
    that every server has reserved, and an id for a new disk. -/
def step (settings : Settings) (reserved : String → Nat) (fresh : String) (m : DiskMachine) :
    (c : DiskCommand) → Except OperationError c.command.Answer × DiskMachine
  | .create sizeMib _ vmId => m.create settings fresh sizeMib vmId
  | .attach vmId diskId => m.attach (reserved vmId) vmId diskId
  | .detach vmId diskId => m.detach vmId diskId
  | .resize diskId sizeGib => m.resize diskId sizeGib
  | .delete diskId => m.delete diskId
  | .has diskId => (.ok (m.disks.contains diskId), m)
  | .list vmId => m.list vmId
  | .deleteVm vmId => (.ok (), m.deleteVm vmId)

end DiskMachine

/-- Whether two outcomes are the same, disks being listed in any order. -/
def DiskCommand.Agrees : (c : DiskCommand) → (r r' : Except OperationError c.command.Answer) → Prop
  | .list _, .ok disks, .ok disks' => disks.Perm disks'
  | _, r, r' => r = r'

end CloudProvider.Lifecycle
