import CloudProvider.Device
import CloudProvider.Lifecycle.Operation
import CloudProvider.Metadata

/-!
# Disks

The life of a disk: it is created, attached to a server, detached, resized and
deleted. A volume changes its status on the backend alone, so every change that is
asked for here is followed by a wait for the status it leads to.

* `gibFor_le_iff`: sizes are rounded up to the least number of GiB that is enough;
* `createDisk`, `deleteDisk`, `hasDisk`, `setDiskMetadata`: a disk by itself;
* `attachDisk`, `attachDiskWithHint`, `detachDisk`, `getDisks`: a disk and its
  server; a disk that is attached already, or not any more, is left alone;
* `resizeDisk`: a disk only grows, and only while it is detached.
-/

namespace CloudProvider.Lifecycle

open Operation

/-! ## Sizes and statuses -/

/-- The size of the smallest disk, in MiB. -/
def minDiskSizeMib : UInt32 := 1024

/-- The least number of GiB that holds so many MiB. -/
def gibFor (mib : UInt32) : UInt32 := .ofNat ((mib.toNat + 1023) / 1024)

/-- So many GiB are enough exactly if they are no fewer. -/
theorem gibFor_le_iff {mib : UInt32} {gib : Nat} :
    (gibFor mib).toNat ≤ gib ↔ mib.toNat ≤ gib * 1024 := by
  have hlt := mib.toNat_lt
  have hgib : (gibFor mib).toNat = (mib.toNat + 1023) / 1024 :=
    Nat.mod_eq_of_lt (by omega)
  omega

/-- The status of a volume that a fetch reports. Where a deleted volume is waited
    for, one that does not exist is deleted. -/
def volumeStatus (target : VolumeStatus) :
    Except CloudError Volume → Except CloudError VolumeStatus
  | .ok v => .ok v.status
  | .error e => if target = .deleted ∧ e.isNotFound then .ok .deleted else .error e

/-- Wait for the status of a volume. -/
def awaitVolume (settings : Settings) (volumeId : String) (target : VolumeStatus) :
    Operation Unit :=
  ofOutcome
    (CloudError.inContext <|
      "Failed waiting for volume '" ++ volumeId ++ "' to become '" ++ target.text ++ "'")
    (settings.wait.awaitStatus ("volume " ++ volumeId) VolumeStatus.text target
      (.getVolume volumeId) (volumeStatus target))

/-! ## A disk by itself -/

/-- The zone that a disk for a server is to be in. -/
def zoneFor (settings : Settings) : Option String → Operation (Option String)
  | some vmId =>
    if settings.ignoreServerZone then pure none
    else do
      openCompute
      let zone ← ask (.getServerZone vmId)
        ("Failed to get availability zone of VM '" ++ vmId ++ "'")
      return some zone
  | none => pure none

/-- Create a disk of at least so many MiB, in whole GiB, and in the zone of a server
    if there is one. -/
def createDisk (settings : Settings) (chance : Chance) (sizeMib : UInt32)
    (properties : DiskProperties) (vmId : Option String) : Operation String := do
  if sizeMib < minDiskSizeMib then
    throw (.validation "Minimum disk size is 1 GiB")
  else
    openVolume
    let zone ← zoneFor settings vmId
    let size := gibFor sizeMib
    let volume ← ask
      (.createVolume {
        name := "volume-" ++ chance.token
        sizeGib := size
        volumeType := properties.volumeType.or settings.defaultVolumeType
        zone := zone })
      ("Failed to create volume of " ++ toString size.toNat ++ " GiB")
    awaitVolume settings volume.id .available
    return volume.id

/-- Delete a disk; one that does not exist is deleted already. -/
def deleteDisk (settings : Settings) (diskId : String) : Operation Unit := do
  openVolume
  match ← attempt (.getVolume diskId) with
  | .error e =>
    if e.isNotFound then return ()
    else throw (.cloud ("Failed to get volume '" ++ diskId ++ "'") e)
  | .ok volume =>
    if volume.status ≠ .available then
      throw <| .conflict <|
        "Cannot delete volume '" ++ diskId ++ "', state is '" ++ volume.status.text ++ "'"
    else
      ask (.deleteVolume diskId) ("Failed to delete volume '" ++ diskId ++ "'")
      awaitVolume settings diskId .deleted

/-- Whether a disk exists. -/
def hasDisk (diskId : String) : Operation Bool := do
  openVolume
  match ← attempt (.getVolume diskId) with
  | .ok volume => return volume.status ≠ .deleted
  | .error e =>
    if e.isNotFound then return false
    else throw (.cloud ("Failed to get volume '" ++ diskId ++ "'") e)

/-- Store metadata on a disk. -/
def setDiskMetadata (diskId : String) (metadata : CallerMetadata) : Operation Unit := do
  openVolume
  askFor (.setVolumeMetadata diskId metadata.toMetadata) "disk" diskId

/-! ## A disk and its server -/

/-- The disks attached to a server. -/
def getDisks (vmId : String) : Operation (List String) := do
  openCompute
  let attachments ← askFor (.listAttachments vmId) "VM" vmId
  return attachments.map (·.volumeId)

/-- The volumes attached to a server that has been found already. -/
def attachmentsOf (vmId : String) : Operation (List Attachment) :=
  ask (.listAttachments vmId) ("Failed to list volume attachments of VM '" ++ vmId ++ "'")

/-- The path under which the next disk of a server is to be attached. -/
def nextDevicePath (settings : Settings) (vmId : String) : Operation String := do
  let server ← askFor (.getServer vmId) "VM" vmId
  let flavor ← ask (.getFlavor server.flavorId) ("Failed to get flavor '" ++ server.flavorId ++ "'")
  let attachments ← attachmentsOf vmId
  match Device.nextLetter? flavor settings.configDrive (attachments.map (·.device)) with
  | some letter => return Device.path letter
  | none => throw (.noFreeDeviceLetter vmId)

/-- Attach a disk that is free. -/
def attachFree (settings : Settings) (vmId diskId : String) : Operation Unit := do
  let device ← nextDevicePath settings vmId
  let _ ← askRepeatedly settings "attach_volume" (.attachVolume vmId diskId device)
    ("Failed to attach volume '" ++ diskId ++ "' to VM '" ++ vmId ++ "'")
  awaitVolume settings diskId .inUse

/-- Attach a disk to a server, unless it is attached to that server already: then
    nothing is done, and the device is told. -/
def attachUnlessAttached (settings : Settings) (vmId diskId : String) :
    Operation (Option String) := do
  openCompute
  openVolume
  let volume ← askFor (.getVolume diskId) "disk" diskId
  match volume.attachmentElsewhere? vmId, volume.attachmentTo? vmId with
  | some other, _ =>
    throw <| .conflict <|
      "Volume '" ++ diskId ++ "' is attached to another VM '" ++ other.serverId ++ "'"
  | none, some existing => return some existing.device
  | none, none =>
    if volume.status ≠ .available then
      throw <| .conflict <|
        "Cannot attach volume '" ++ diskId ++ "', state is '" ++ volume.status.text ++ "'"
    else
      attachFree settings vmId diskId
      return none

/-- Attach a disk to a server. -/
def attachDisk (settings : Settings) (vmId diskId : String) : Operation Unit := do
  let _ ← attachUnlessAttached settings vmId diskId

/-- Attach a disk to a server and tell under which path the backend put it. -/
def attachDiskWithHint (settings : Settings) (vmId diskId : String) : Operation DiskHint := do
  match ← attachUnlessAttached settings vmId diskId with
  | some device => return ⟨device⟩
  | none =>
    -- The path asked for is but a wish; the volume tells the one it got.
    openVolume
    let volume ← askFor (.getVolume diskId) "disk" diskId
    match volume.attachmentTo? vmId with
    | some attachment => return ⟨attachment.device⟩
    | none => throw (.notFound "attachment" (diskId ++ " on VM " ++ vmId))

/-- Detach a disk from a server; a disk that the server does not have is detached
    already. -/
def detachDisk (settings : Settings) (vmId diskId : String) : Operation Unit := do
  openCompute
  openVolume
  let _ ← askFor (.getServer vmId) "VM" vmId
  let attachments ← attachmentsOf vmId
  if attachments.any (·.volumeId = diskId) then
    askRepeatedly settings "detach_volume" (.detachVolume vmId diskId)
      ("Failed to detach volume '" ++ diskId ++ "' from VM '" ++ vmId ++ "'")
    awaitVolume settings diskId .available
  else return ()

/-! ## The size of a disk -/

/-- Grow a detached disk to so many GiB. -/
def resizeDisk (settings : Settings) (diskId : String) (sizeGib : UInt32) : Operation Unit := do
  openVolume
  let volume ← askFor (.getVolume diskId) "disk" diskId
  if ! volume.attachments.isEmpty then
    throw (.validation ("Cannot resize volume '" ++ diskId ++ "' due to attachments"))
  else if sizeGib < volume.sizeGib then
    throw <| .validation <|
      "Cannot resize volume '" ++ diskId ++ "' to a smaller size from " ++
        toString volume.sizeGib.toNat ++ " GiB to " ++ toString sizeGib.toNat ++ " GiB"
  else if sizeGib = volume.sizeGib then return ()
  else
    askRepeatedly settings "extend_volume" (.extendVolume diskId sizeGib)
      ("Failed to resize volume '" ++ diskId ++ "' to " ++ toString sizeGib.toNat ++ " GiB")
    awaitVolume settings diskId .available

end CloudProvider.Lifecycle
