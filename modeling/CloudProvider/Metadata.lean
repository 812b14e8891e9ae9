import CloudProvider.Json.Writer
import CloudProvider.Resource.Basic
import CloudProvider.Text.Split

/-!
# Metadata

Callers hand over any JSON values under any names; the backend stores texts. From
these texts the names of servers and the descriptions and metadata of snapshots
are derived.

* `CallerMetadata.toMetadata`: the texts of a caller's metadata;
* `Metadata.snapshotDescription`, `Metadata.forSnapshot`: what a snapshot is
  given;
* `Metadata.serverName?`: the name of a server after its job.
-/

namespace CloudProvider

/-- Metadata as a caller hands it over. -/
abbrev CallerMetadata := Table Json

namespace CallerMetadata

/-- A text is kept as it is, any other value by its JSON text; `null` is none. -/
def valueText? : Json → Option String
  | .null => none
  | .string s => some s
  | j => some j.compact

/-- The texts of a caller's metadata. A nameless value is dropped. -/
def toMetadata (m : CallerMetadata) : Metadata :=
  m.filterMap fun name value => if name = "" then none else valueText? value

end CallerMetadata

namespace Metadata

/-- The text under a name, or a remark that there is none. -/
def orNotSet (m : Metadata) (name : String) : String :=
  (m.get? name).getD (name ++ "-not-set")

/-- What comes after the last slash of a device path. -/
def deviceName (device : String) : String :=
  String.ofList (Text.lastSegment '/' device.toList)

/-- The description of a snapshot: deployment, job and index, and the name of the
    first device if there is one. -/
def snapshotDescription (m : Metadata) (devices : List String) : String :=
  m.orNotSet "deployment" ++ "/" ++ m.orNotSet "job" ++ "/" ++ m.orNotSet "index" ++
    (devices.head?.elim "" fun d => "/" ++ deviceName d)

/-- Give the text under a name a new name. -/
def rename (m : Metadata) (name name' : String) : Metadata :=
  match m.get? name with
  | some value => (m.erase name).insert name' value
  | none => m

/-- Fold the job into the name of the instance. -/
def foldJob (m : Metadata) : Metadata :=
  match m.get? "job" with
  | some job =>
    -- The instance keeps its own id; only the job goes.
    let m : Metadata := m.erase "job"
    m.insert "instance_name" (job ++ "/" ++ m.orNotSet "instance_id")
  | none => m

/-- The metadata of a snapshot: the director, the index and the job go under the
    names that snapshots have for them. -/
def forSnapshot (m : Metadata) : Metadata :=
  ((m.rename "director_name" "director").rename "index" "instance_index").foldJob

/-- The name of a server: the one given, unless it is empty, or else job and index
    if both are set. -/
def serverName? (m : Metadata) : Option String :=
  ((m.get? "name").filter (· ≠ "")).or <|
    match m.get? "job", m.get? "index" with
    | some job, some index => some (job ++ "/" ++ index)
    | _, _ => none

end Metadata

end CloudProvider
