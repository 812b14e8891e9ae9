import CloudProvider.Lifecycle.Operation
import CloudProvider.Metadata

/-!
# Snapshots

A snapshot is taken of a disk, attached or not, and described after the deployment
that the disk belongs to.

* `snapshotDisk`: take a snapshot and wait until it is available;
* `deleteSnapshot`: delete one and wait until it is gone; one that does not exist
  is gone already.
-/

namespace CloudProvider.Lifecycle

open Operation

/-- The status of a snapshot that a fetch reports. -/
def snapshotStatus : Except CloudError Snapshot → Except CloudError SnapshotStatus
  | .ok s => .ok s.status
  | .error e => .error e

/-- The status of a snapshot that is waited for to go: one that does not exist is
    deleted. -/
def goneSnapshotStatus : Except CloudError Snapshot → Except CloudError SnapshotStatus
  | .ok s => .ok s.status
  | .error e => if e.isNotFound then .ok .deleted else .error e

/-- Take a snapshot of a disk. -/
def snapshotDisk (settings : Settings) (chance : Chance) (diskId : String)
    (metadata : CallerMetadata) : Operation String := do
  openVolume
  let volume ← askFor (.getVolume diskId) "disk" diskId
  let texts := metadata.toMetadata
  let snapshot ← ask
    (.createSnapshot {
      volumeId := diskId
      force := true
      name := "snapshot-" ++ chance.token
      description := texts.snapshotDescription volume.devicePaths
      metadata := texts.forSnapshot })
    ("Failed to create snapshot of volume '" ++ diskId ++ "'")
  ofOutcome
    (CloudError.inContext <|
      "Failed waiting for snapshot '" ++ snapshot.id ++ "' to become available")
    (settings.wait.awaitStatus ("snapshot " ++ snapshot.id) SnapshotStatus.text .available
      (.getSnapshot snapshot.id) snapshotStatus)
  return snapshot.id

/-- Delete a snapshot. -/
def deleteSnapshot (settings : Settings) (snapshotId : String) : Operation Unit := do
  openVolume
  match ← attempt (.deleteSnapshot snapshotId) with
  | .error e =>
    if e.isNotFound then return ()
    else throw (.cloud ("Failed to delete snapshot '" ++ snapshotId ++ "'") e)
  | .ok () =>
    ofOutcome
      (CloudError.inContext <|
        "Failed waiting for snapshot '" ++ snapshotId ++ "' to be deleted")
      (settings.wait.awaitStatus ("snapshot " ++ snapshotId) SnapshotStatus.text .deleted
        (.getSnapshot snapshotId) goneSnapshotStatus)

end CloudProvider.Lifecycle
