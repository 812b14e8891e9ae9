import CloudProvider.Lifecycle.Disk
import CloudProvider.Lifecycle.Snapshot
import CloudProvider.Lifecycle.Vm

/-!
# Commands

The lifecycle operations as data, so that one can speak of any sequence of them.

* `Command.Answer`: what an operation tells when it succeeds;
* `Command.operation`: the operation that a command asks for.
-/

namespace CloudProvider.Lifecycle

/-- A lifecycle operation and its arguments. -/
inductive Command where
  | createVm (request : VmRequest)
  | deleteVm (vmId : String)
  | hasVm (vmId : String)
  | setVmMetadata (vmId : String) (metadata : CallerMetadata)
  | rebootVm (vmId : String)
  | calculateVmProperties (resources : VmResources)
  | createDisk (sizeMib : UInt32) (properties : DiskProperties) (vmId : Option String)
  | deleteDisk (diskId : String)
  | hasDisk (diskId : String)
  | setDiskMetadata (diskId : String) (metadata : CallerMetadata)
  | getDisks (vmId : String)
  | attachDisk (vmId diskId : String)
  | attachDiskWithHint (vmId diskId : String)
  | detachDisk (vmId diskId : String)
  | resizeDisk (diskId : String) (sizeGib : UInt32)
  | snapshotDisk (diskId : String) (metadata : CallerMetadata)
  | deleteSnapshot (snapshotId : String)
  deriving Inhabited

namespace Command

/-- What an operation tells when it succeeds. -/
abbrev Answer : Command → Type
  | createVm _ => CreatedVm
  | deleteVm _ => Unit
  | hasVm _ => Bool
  | setVmMetadata _ _ => Unit
  | rebootVm _ => Unit
  | calculateVmProperties _ => CalculatedVmProperties
  | createDisk _ _ _ => String
  | deleteDisk _ => Unit
  | hasDisk _ => Bool
  | setDiskMetadata _ _ => Unit
  | getDisks _ => List String
  | attachDisk _ _ => Unit
  | attachDiskWithHint _ _ => DiskHint
  | detachDisk _ _ => Unit
  | resizeDisk _ _ => Unit
  | snapshotDisk _ _ => String
  | deleteSnapshot _ => Unit

/-- The operation that a command asks for. -/
def operation (settings : Settings) (chance : Chance) : (c : Command) → Operation c.Answer
  | createVm request => Lifecycle.createVm settings chance request
  | deleteVm vmId => Lifecycle.deleteVm settings vmId
  | hasVm vmId => Lifecycle.hasVm vmId
  | setVmMetadata vmId metadata => Lifecycle.setVmMetadata settings vmId metadata
  | rebootVm vmId => Lifecycle.rebootVm settings vmId
  | calculateVmProperties resources => Lifecycle.calculateVmProperties settings resources
  | createDisk sizeMib properties vmId =>
    Lifecycle.createDisk settings chance sizeMib properties vmId
  | deleteDisk diskId => Lifecycle.deleteDisk settings diskId
  | hasDisk diskId => Lifecycle.hasDisk diskId
  | setDiskMetadata diskId metadata => Lifecycle.setDiskMetadata diskId metadata
  | getDisks vmId => Lifecycle.getDisks vmId
  | attachDisk vmId diskId => Lifecycle.attachDisk settings vmId diskId
  | attachDiskWithHint vmId diskId => Lifecycle.attachDiskWithHint settings vmId diskId
  | detachDisk vmId diskId => Lifecycle.detachDisk settings vmId diskId
  | resizeDisk diskId sizeGib => Lifecycle.resizeDisk settings diskId sizeGib
  | snapshotDisk diskId metadata => Lifecycle.snapshotDisk settings chance diskId metadata
  | deleteSnapshot snapshotId => Lifecycle.deleteSnapshot settings snapshotId

end Command

end CloudProvider.Lifecycle
