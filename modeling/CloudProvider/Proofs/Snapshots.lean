import CloudProvider.Proofs.Derivation
import CloudProvider.Proofs.Served
import CloudProvider.Lifecycle.Snapshot

/-!
# What a snapshot tells

A snapshot of a disk is told where the disk belongs. Its description names the deployment, the
job and the index, and the device if the disk is attached; its metadata are those of the caller,
under the names that snapshots have for them.

* `Snapshot.Portrays`: what a snapshot says of its disk, in terms of what the caller said;
* `snapshotDisk_portrays`: a snapshot that is taken says it, and nothing but the snapshot is
  added.
-/

namespace CloudProvider

namespace CallerMetadata

/-- What a caller said under a name, or a remark that there is nothing. -/
def said (m : CallerMetadata) (name : String) : String := (m.text? name).getD (name ++ "-not-set")

/-- Where a caller says that a disk belongs. -/
def place (m : CallerMetadata) : String :=
  m.said "deployment" ++ "/" ++ m.said "job" ++ "/" ++ m.said "index"

theorem orNotSet_toMetadata (m : CallerMetadata) (name : String) :
    m.toMetadata.orNotSet name = m.said name := by
  rw [Metadata.orNotSet, get?_toMetadata, said]

end CallerMetadata

namespace Snapshot

/-- What a snapshot says of a volume. -/
structure Portrays (snapshot : Snapshot) (m : CallerMetadata) (volume : Volume) : Prop where
  detached : volume.attachments = [] → snapshot.description = m.place
  attached : ∀ a rest, volume.attachments = a :: rest →
    ∃ name, Metadata.IsDeviceName name a.device ∧ snapshot.description = m.place ++ "/" ++ name
  director : snapshot.metadata.get? "director" = (m.text? "director_name").or (m.text? "director")
  index : snapshot.metadata.get? "instance_index" =
    (m.text? "index").or (m.text? "instance_index")
  name : snapshot.metadata.get? "instance_name" =
    ((m.text? "job").map fun job => job ++ "/" ++ m.said "instance_id").or
      (m.text? "instance_name")
  dropped : ∀ key ∈ ["director_name", "index", "job"], snapshot.metadata.get? key = none
  kept : ∀ key ∉ ["director_name", "index", "job", "director", "instance_index", "instance_name"],
    snapshot.metadata.get? key = m.text? key
  /-- There is nothing left to derive from its metadata. -/
  settled : snapshot.metadata.forSnapshot = snapshot.metadata

theorem portrays {snapshot : Snapshot} {m : CallerMetadata} {volume : Volume}
    (hdescription : snapshot.description = m.toMetadata.snapshotDescription volume.devicePaths)
    (hmetadata : snapshot.metadata = m.toMetadata.forSnapshot) : snapshot.Portrays m volume := by
  have hplace : snapshot.description =
      m.place ++
        (volume.attachments.head?.elim "" fun a => "/" ++ Metadata.deviceName a.device) := by
    rw [hdescription, Metadata.snapshotDescription, Volume.devicePaths, List.head?_map,
      CallerMetadata.place]
    simp only [CallerMetadata.orNotSet_toMetadata]
    cases volume.attachments.head? <;> rfl
  have hget (key : String) := Metadata.get?_forSnapshot m.toMetadata key
  simp only [← hmetadata, CallerMetadata.get?_toMetadata, CallerMetadata.orNotSet_toMetadata]
    at hget
  exact {
    detached := fun h => by rw [hplace, h]; exact String.append_empty
    attached := fun a rest h => by
      refine ⟨Metadata.deviceName a.device, Metadata.isDeviceName_iff.2 rfl, ?_⟩
      rw [hplace, h, String.append_assoc]
      rfl
    director := by simp [hget]
    index := by simp [hget]
    name := by simp [hget]
    dropped := by simp [hget]
    kept := fun key hkey => by
      simp only [List.mem_cons, List.not_mem_nil, or_false, not_or] at hkey
      simp [hget, hkey]
    settled := by rw [hmetadata, Metadata.forSnapshot_forSnapshot] }

end Snapshot

namespace Resources

/-- The snapshot that a request amounts to. -/
def snapshotFor (r : SnapshotRequest) (s : Resources) : Snapshot where
  id := s.nextId "snapshot"
  name := r.name
  volumeId := r.volumeId
  status := .available
  description := r.description
  metadata := r.metadata

/-- Keep a new snapshot. -/
def keepSnapshot (snapshot : Snapshot) (s : Resources) : Resources :=
  { s with
    issued := s.issued + 1
    snapshots := s.snapshots.insert snapshot.id snapshot }

theorem serve_createSnapshot {s : Resources} {r : SnapshotRequest} {v : Volume}
    (h : s.volumes.get? r.volumeId = some v) :
    s.serve (.createSnapshot r) = (.ok (s.snapshotFor r), s.keepSnapshot (s.snapshotFor r)) := by
  have hcreate : s.createSnapshot r = .ok (s.snapshotFor r, s.keepSnapshot (s.snapshotFor r)) := by
    rw [createSnapshot, find_of_some h]
    rfl
  exact serve_of_ok hcreate

theorem serve_getSnapshot {s : Resources} {id : String} {snapshot : Snapshot}
    (h : s.snapshots.get? id = some snapshot) :
    s.serve (.getSnapshot id) = (.ok snapshot, s) := by
  have hread : s.unchanged (find s.snapshots "snapshot" id) = .ok (snapshot, s) := by
    rw [find_of_some h]
    rfl
  exact serve_of_ok hread

end Resources

namespace Lifecycle

open Operation Resources

variable {settings : Settings} {chance : Chance} {diskId : String} {m : CallerMetadata}
  {volume : Volume}

/-- What is asked for when a snapshot of a volume is taken. -/
def snapshotRequest (chance : Chance) (diskId : String) (m : CallerMetadata) (volume : Volume) :
    SnapshotRequest where
  volumeId := diskId
  force := true
  name := "snapshot-" ++ chance.token
  description := m.toMetadata.snapshotDescription volume.devicePaths
  metadata := m.toMetadata.forSnapshot

theorem serve_snapshotDisk {s : Resources} (h : s.volumes.get? diskId = some volume) :
    (snapshotDisk settings chance diskId m).serve s =
      let snapshot := s.snapshotFor (snapshotRequest chance diskId m volume)
      (.ok snapshot.id, s.keepSnapshot snapshot) := by
  let snapshot := s.snapshotFor (snapshotRequest chance diskId m volume)
  have hcreated : (s.keepSnapshot snapshot).snapshots.get? snapshot.id = some snapshot :=
    Table.get?_insert_self _ _ _
  rw [snapshotDisk, serve_bind_ok (serve_openVolume s),
    serve_bind_ok (serve_askFor (serve_getVolume_reported h) "disk" diskId)]
  refine (serve_bind_ok (serve_ask (serve_createSnapshot
    (r := snapshotRequest chance diskId m volume) h) _)).trans ?_
  exact serve_bind_ok (serve_ofOutcome (r := .ok ())
    (Wait.serve_awaitStatus (serve_getSnapshot hcreated) rfl))

/-- A snapshot that is taken of a disk is new, says where the disk belongs, and is all that is
    added. -/
theorem snapshotDisk_portrays (settings : Settings) (chance : Chance) {s : Session}
    (hcalm : s.Calm) (hvolume : s.cloud.resources.volumes.get? diskId = some volume)
    (hunused : s.cloud.resources.snapshots.get? (s.cloud.resources.nextId "snapshot") = none)
    (m : CallerMetadata) :
    let o := s.run (snapshotDisk settings chance diskId m)
    ∃ snapshot : Snapshot, o.1 = .ok snapshot.id ∧
      s.cloud.resources.snapshots.get? snapshot.id = none ∧
      o.2.cloud.resources = { s.cloud.resources with
        issued := s.cloud.resources.issued + 1
        snapshots := s.cloud.resources.snapshots.insert snapshot.id snapshot } ∧
      snapshot.volumeId = diskId ∧ snapshot.Portrays m volume := by
  obtain ⟨hresult, hserved⟩ := Session.run_of_calm hcalm (snapshotDisk settings chance diskId m)
  rw [serve_snapshotDisk hvolume] at hresult hserved
  exact ⟨_, hresult, hunused, hserved.resources, rfl, Snapshot.portrays rfl rfl⟩

/-- A disk that two servers share. -/
def sharedSession : Session where
  cloud := ({} : Cloud).seed fun s =>
    ((s.addVolume "disk" 5).addAttachment "disk" "vm" "a/b/c").addAttachment "disk" "other"
      "/dev/sdb"

/-- Metadata that hold some of the names that snapshots have for others. -/
def collidingMetadata : CallerMetadata :=
  .ofList [("director_name", .string "bosh"), ("director", .string "nobody"), ("job", .string "db"),
    ("index", .nat 4), ("instance_name", .string "unknown"), ("deployment", .null),
    ("", .string "nameless"), ("team", .bool true)]

/-- What the caller said under these names is overridden, and the first device counts. -/
theorem snapshotDisk_portrays_colliding :
    let o := sharedSession.run (snapshotDisk {} default "disk" collidingMetadata)
    ∃ snapshot : Snapshot, o.1 = .ok snapshot.id ∧
      o.2.cloud.resources.snapshots.get? snapshot.id = some snapshot ∧
      snapshot.volumeId = "disk" ∧ snapshot.description = "deployment-not-set/db/4/c" ∧
      snapshot.metadata.get? "director" = some "bosh" ∧
      snapshot.metadata.get? "instance_index" = some "4" ∧
      snapshot.metadata.get? "instance_name" = some "db/instance_id-not-set" ∧
      snapshot.metadata.get? "job" = none ∧ snapshot.metadata.get? "team" = some "true" := by
  intro o
  have hdevices : (sharedSession.cloud.resources.volumes.get? "disk").map
      (·.attachments.map (·.device)) = some ["a/b/c", "/dev/sdb"] := by decide +kernel
  obtain ⟨volume, hvolume, hdevices⟩ := Option.map_eq_some_iff.1 hdevices
  obtain ⟨a, rest, hattachments, hdevice, -⟩ := List.map_eq_cons_iff.1 hdevices
  obtain ⟨snapshot, hok, -, hresources, hdisk, hportrays⟩ :=
    snapshotDisk_portrays {} default ⟨rfl, rfl, rfl, rfl, rfl, rfl⟩ hvolume (by decide +kernel)
      collidingMetadata
  obtain ⟨name, hname, hdescription⟩ := hportrays.attached a rest hattachments
  rw [Metadata.isDeviceName_iff.1 hname, hdevice] at hdescription
  have hkept : o.2.cloud.resources.snapshots.get? snapshot.id = some snapshot := by
    rw [hresources]
    exact Table.get?_insert_self _ _ _
  exact ⟨snapshot, hok, hkept, hdisk, hdescription.trans (by decide +kernel),
    hportrays.director.trans (by decide +kernel), hportrays.index.trans (by decide +kernel),
    hportrays.name.trans (by decide +kernel), hportrays.dropped "job" (by decide),
    (hportrays.kept "team" (by decide)).trans (by decide +kernel)⟩

end Lifecycle

end CloudProvider
