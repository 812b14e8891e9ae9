import CloudProvider.Proofs.Reading
import CloudProvider.Wire.Request
import CloudProvider.Wire.Settings

/-!
# Round trips

What the library writes it reads back. Every type on the wire is written so that its reader
takes back the very value, whatever its fields hold; and a document that a reader accepts,
however it spells the value, leads to a value that is taken back once it is written.

Two things need care. A status is kept as the text it came as unless it has a name of its own,
so a status that no text leads to cannot come back; and the names of server statuses are
matched after upper-casing, so a server status may be written in another way than it was read.

* `ServerStatus.text_ofText_of_matches`: a text that is a name up to its case is written as
  the name;
* `ofDocument?_toJson`: one for every type, built on those of its parts;
* `WireType.restores`: the types on the wire all at once.
-/

namespace CloudProvider

open Document

/-! ## Statuses -/

namespace ServerStatus

variable {s name : String}

theorem eq_of_matchesUppercase {name' : String} (h : Text.matchesUppercase s name = true)
    (h' : Text.matchesUppercase s name' = true) : name' = name := by
  have hname := (eq_of_beq h').symm.trans (eq_of_beq h)
  exact String.toList_inj.1 (Option.some.inj hname)

theorem text_of_mem_named : ∀ n ∈ named, n.2.text = n.1 ∧ ofText n.1 = n.2 := by decide

theorem ofText_cases (s : String) :
    (∃ n ∈ named, Text.matchesUppercase s n.1 = true ∧ ofText s = n.2) ∨
      (∀ n ∈ named, Text.matchesUppercase s n.1 = false) ∧ ofText s = other s := by
  cases hfind : named.find? fun n => Text.matchesUppercase s n.1 with
  | none =>
    refine .inr ⟨fun n hn => by simpa using List.find?_eq_none.1 hfind n hn, ?_⟩
    rw [ofText, hfind]
    rfl
  | some n =>
    have hmatches : Text.matchesUppercase s n.1 = true := by simpa using List.find?_some hfind
    refine .inl ⟨n, List.mem_of_find?_eq_some hfind, hmatches, ?_⟩
    rw [ofText, hfind]
    rfl

/-- A text that is a name up to its case is written as the name. -/
theorem text_ofText_of_matches (hname : name ∈ named.map (·.1))
    (h : Text.matchesUppercase s name = true) : (ofText s).text = name := by
  obtain ⟨n, hn, rfl⟩ := List.mem_map.1 hname
  obtain ⟨n', hn', hmatches, hs⟩ | ⟨hnone, -⟩ := ofText_cases s
  · rw [hs, (text_of_mem_named n' hn').1, eq_of_matchesUppercase h hmatches]
  · rw [hnone n hn] at h
    cases h

/-- Any other text is written as it stands. -/
theorem text_ofText_of_not_matches
    (h : ∀ name ∈ named.map (·.1), Text.matchesUppercase s name = false) :
    (ofText s).text = s := by
  obtain ⟨n, hn, hmatches, -⟩ | ⟨-, hs⟩ := ofText_cases s
  · rw [h n.1 (List.mem_map_of_mem hn)] at hmatches
    cases hmatches
  · rw [hs]
    rfl

/-- Writing a status and reading it again changes nothing more. -/
theorem ofText_text_ofText (s : String) : ofText (ofText s).text = ofText s := by
  obtain ⟨n, hn, -, hs⟩ | ⟨-, hs⟩ := ofText_cases s
  · obtain ⟨htext, hname⟩ := text_of_mem_named n hn
    rw [hs, htext, hname]
  · rw [hs]
    exact hs

theorem ofDocument?_toJson {status : ServerStatus} (h : ∃ s, ofText s = status) :
    ofDocument? status.toJson.toDocument = some status := by
  obtain ⟨s, rfl⟩ := h
  exact congrArg some (ofText_text_ofText s)

end ServerStatus

namespace VolumeStatus

theorem ofDocument?_toJson {status : VolumeStatus} (h : ∃ s, ofText s = status) :
    ofDocument? status.toJson.toDocument = some status := by
  obtain ⟨s, rfl⟩ := h
  exact congrArg (some <| ofText ·) (text_ofText s)

end VolumeStatus

namespace SnapshotStatus

theorem ofDocument?_toJson {status : SnapshotStatus} (h : ∃ s, ofText s = status) :
    ofDocument? status.toJson.toDocument = some status := by
  obtain ⟨s, rfl⟩ := h
  exact congrArg (some <| ofText ·) (text_ofText s)

end SnapshotStatus

/-! ## Resources -/

@[simp] theorem Metadata.ofDocument?_toJson (m : Metadata) :
    ofDocument? (toJson m).toDocument = some m :=
  table?_toDocument fun _ s _ => text?_toDocument s

theorem Server.ofDocument?_toJson {s : Server} (h : ∃ text, ServerStatus.ofText text = s.status) :
    ofDocument? s.toJson.toDocument = some s := by
  rw [ofDocument?, toJson, record?_toDocument (by simp)]
  simp [List.lookup_cons, ServerStatus.ofDocument?_toJson h]

@[simp] theorem Attachment.ofDocument?_toJson (a : Attachment) :
    ofDocument? a.toJson.toDocument = some a := by
  rw [ofDocument?, toJson, record?_toDocument (by simp)]
  simp [List.lookup_cons]

theorem Volume.ofDocument?_toJson {v : Volume} (h : ∃ text, VolumeStatus.ofText text = v.status) :
    ofDocument? v.toJson.toDocument = some v := by
  rw [ofDocument?, toJson, record?_toDocument (by simp)]
  have hattachments : (Json.array (v.attachments.map Attachment.toJson)).toDocument.list?
      Attachment.ofDocument? = some v.attachments :=
    list?_toDocument fun a _ => a.ofDocument?_toJson
  simp [List.lookup_cons, VolumeStatus.ofDocument?_toJson h, hattachments]

theorem Snapshot.ofDocument?_toJson {s : Snapshot}
    (h : ∃ text, SnapshotStatus.ofText text = s.status) :
    ofDocument? s.toJson.toDocument = some s := by
  rw [ofDocument?, toJson, record?_toDocument (by simp)]
  simp [List.lookup_cons, SnapshotStatus.ofDocument?_toJson h]

theorem Flavor.ofDocument?_toJson (f : Flavor) : ofDocument? f.toJson.toDocument = some f := by
  rw [ofDocument?, toJson, record?_toDocument (by simp)]
  simp [List.lookup_cons]

theorem Port.ofDocument?_toJson (p : Port) : ofDocument? p.toJson.toDocument = some p := by
  rw [ofDocument?, toJson, record?_toDocument (by simp)]
  simp [List.lookup_cons]

theorem Pool.ofDocument?_toJson (p : Pool) : ofDocument? p.toJson.toDocument = some p := by
  rw [ofDocument?, toJson, record?_toDocument (by simp)]
  simp [List.lookup_cons]

theorem PoolMember.ofDocument?_toJson (m : PoolMember) :
    ofDocument? m.toJson.toDocument = some m := by
  rw [ofDocument?, toJson, record?_toDocument (by simp)]
  simp [List.lookup_cons]

/-! ## Networks -/

@[simp] theorem NetworkKind.ofDocument?_toJson (k : NetworkKind) :
    ofDocument? k.toJson.toDocument = some k := by
  cases k <;> rfl

@[simp] theorem NetworkProperties.ofDocument?_toJson (p : NetworkProperties) :
    ofDocument? p.toJson.toDocument = some p := by
  rw [ofDocument?, toJson, record?_toDocument (by simp)]
  simp [List.lookup_cons]

theorem NetworkSettings.ofDocument?_toJson (s : NetworkSettings) :
    ofDocument? s.toJson.toDocument = some s := by
  rw [ofDocument?, toJson, record?_toDocument (by simp)]
  simp [List.lookup_cons]

@[simp] theorem NetworkSpec.ofDocument?_toJson (s : NetworkSpec) :
    ofDocument? (toJson s).toDocument = some s :=
  table?_toDocument fun _ settings _ => settings.ofDocument?_toJson

@[simp] theorem Network.ofDocument?_toJson (n : Network) :
    ofDocument? n.toJson.toDocument = some n := by
  rw [ofDocument?, toJson, record?_toDocument (by simp)]
  simp [List.lookup_cons]

theorem NetworkConfig.ofDocument?_toJson (c : NetworkConfig) :
    ofDocument? c.toJson.toDocument = some c := by
  rw [ofDocument?, toJson, record?_toDocument (by simp)]
  have hmanual : (Json.array (c.manualNetworks.map Network.toJson)).toDocument.list?
      Network.ofDocument? = some c.manualNetworks :=
    list?_toDocument fun n _ => n.ofDocument?_toJson
  have hvip : (c.vipNetwork.elim Json.null Network.toJson).toDocument.optional?
      Network.ofDocument? = some c.vipNetwork :=
    optional?_elim Network.ofDocument?_toJson rfl
  simp [List.lookup_cons, hmanual, hvip]

/-! ## Requests and what they lead to -/

@[simp] theorem PoolBinding.ofDocument?_toJson (b : PoolBinding) :
    ofDocument? b.toJson.toDocument = some b := by
  rw [ofDocument?, toJson, record?_toDocument (by simp)]
  have hmonitoring : (b.monitoringPort.elim Json.null fun p => .nat p.toNat).toDocument.optional?
      word16? = some b.monitoringPort :=
    optional?_elim word16?_toDocument rfl
  simp [List.lookup_cons, hmonitoring]

@[simp] theorem RootDisk.ofDocument?_toJson (r : RootDisk) :
    ofDocument? r.toJson.toDocument = some r := by
  rw [ofDocument?, toJson, record?_toDocument (by simp)]
  simp [List.lookup_cons]

@[simp] theorem VmProperties.ofDocument?_toJson (p : VmProperties) :
    ofDocument? p.toJson.toDocument = some p := by
  rw [ofDocument?, toJson, record?_toDocument (by simp)]
  have hpools : (Json.array (p.pools.map PoolBinding.toJson)).toDocument.list?
      PoolBinding.ofDocument? = some p.pools :=
    list?_toDocument fun b _ => b.ofDocument?_toJson
  have hboot : (p.bootFromVolume.elim Json.null Json.bool).toDocument.optional? flag? =
      some p.bootFromVolume :=
    optional?_elim flag?_toDocument rfl
  have hdisk : (p.rootDisk.elim Json.null RootDisk.toJson).toDocument.optional?
      RootDisk.ofDocument? = some p.rootDisk :=
    optional?_elim RootDisk.ofDocument?_toJson rfl
  simp [List.lookup_cons, hpools, hboot, hdisk]

theorem DiskProperties.ofDocument?_toJson (p : DiskProperties) :
    ofDocument? p.toJson.toDocument = some p := by
  rw [ofDocument?, toJson, record?_toDocument (by simp)]
  simp [List.lookup_cons]

theorem VmResources.ofDocument?_toJson (r : VmResources) :
    ofDocument? r.toJson.toDocument = some r := by
  rw [ofDocument?, toJson, record?_toDocument (by simp)]
  simp [List.lookup_cons]

theorem VmRequest.ofDocument?_toJson {r : VmRequest} (h : r.environment.Canonical) :
    ofDocument? r.toJson.toDocument = some r := by
  rw [ofDocument?, toJson, record?_toDocument (by simp)]
  simp [List.lookup_cons, Json.toJson?_toDocument r.environment h]

theorem CalculatedVmProperties.ofDocument?_toJson (p : CalculatedVmProperties) :
    ofDocument? p.toJson.toDocument = some p := by
  obtain ⟨instanceType, rootDisk⟩ := p
  -- An absent root disk is not written at all, so there are two lists of fields.
  cases rootDisk with
  | none =>
    rw [ofDocument?, toJson, record?_toDocument (by simp)]
    simp [List.lookup_cons]
  | some r =>
    rw [ofDocument?, toJson, record?_toDocument (by simp)]
    have hdisk : r.toJson.toDocument.optional? RootDisk.ofDocument? = some (some r) :=
      optional?_of_some r.ofDocument?_toJson rfl
    simp [List.lookup_cons, hdisk]

theorem DiskHint.ofDocument?_toJson (h : DiskHint) : ofDocument? h.toJson.toDocument = some h := by
  rw [ofDocument?, toJson, record?_toDocument (by simp)]
  simp [List.lookup_cons]

theorem Info.ofDocument?_toJson (i : Info) : ofDocument? i.toJson.toDocument = some i := by
  rw [ofDocument?, toJson, record?_toDocument (by simp)]
  simp [List.lookup_cons]

/-! ## Settings -/

theorem ConfigDrive.ofDocument?_toJson (d : ConfigDrive) :
    ofDocument? d.toJson.toDocument = some d := by
  cases d <;> rfl

theorem RetryPolicy.ofDocument?_toJson (p : RetryPolicy) :
    ofDocument? p.toJson.toDocument = some p := by
  rw [ofDocument?, toJson, record?_toDocument (by simp)]
  simp [List.lookup_cons]

@[simp] theorem RetryPolicies.ofDocument?_toJson (p : RetryPolicies) :
    ofDocument? (toJson p).toDocument = some p :=
  table?_toDocument fun _ policy _ => policy.ofDocument?_toJson

theorem ConnectionProperties.ofDocument?_toJson (p : ConnectionProperties) :
    ofDocument? p.toJson.toDocument = some p := by
  rw [ofDocument?, toJson, record?_toDocument (by simp)]
  -- Field by field, as there are too many of them to be taken at once.
  refine bind_eq_some rfl ?_
  refine bind_eq_some (optional?_toDocument p.authUrl) ?_
  refine bind_eq_some (optional?_toDocument p.username) ?_
  refine bind_eq_some (optional?_toDocument p.apiKey) ?_
  refine bind_eq_some (optional?_toDocument p.tenant) ?_
  refine bind_eq_some (optional?_toDocument p.project) ?_
  refine bind_eq_some (optional?_toDocument p.domain) ?_
  refine bind_eq_some (optional?_toDocument p.region) ?_
  refine bind_eq_some (optional?_toDocument p.applicationCredentialId) ?_
  refine bind_eq_some (optional?_toDocument p.applicationCredentialSecret) ?_
  refine bind_eq_some (word64?_toDocument p.stateTimeout) ?_
  refine bind_eq_some (word64?_toDocument p.pollInterval) ?_
  refine bind_eq_some (optional?_toDocument p.configDrive) ?_
  refine bind_eq_some (flag?_toDocument p.ignoreServerZone) ?_
  refine bind_eq_some (optional?_toDocument p.defaultVolumeType) ?_
  refine bind_eq_some (flag?_toDocument p.bootFromVolume) ?_
  refine bind_eq_some (flag?_toDocument p.humanReadableVmNames) ?_
  refine bind_eq_some (RetryPolicies.ofDocument?_toJson p.retryPolicies) ?_
  rfl

/-! ## What is read

Not every status and not every environment comes back, but those that were read do.
-/

section

variable {d : Document}

/-- A status that was read is one that some text leads to. -/
theorem exists_of_map_text? {α : Type} {ofText : String → α} {status : α}
    (h : d.text?.map ofText = some status) : ∃ text, ofText text = status :=
  let ⟨text, _, htext⟩ := Option.map_eq_some_iff.1 h
  ⟨text, htext⟩

theorem Server.exists_of_ofDocument? {s : Server} (h : ofDocument? d = some s) :
    ∃ text, ServerStatus.ofText text = s.status := by
  simp only [ofDocument?, Option.bind_eq_bind, Option.bind_eq_some_iff, Option.pure_def] at h
  obtain ⟨field, -, _, -, _, -, status, hstatus, _, -, _, -, _, -, hs⟩ := h
  cases hs
  obtain ⟨d, hd⟩ := Slot.exists_of_required hstatus
  exact exists_of_map_text? hd

theorem Volume.exists_of_ofDocument? {v : Volume} (h : ofDocument? d = some v) :
    ∃ text, VolumeStatus.ofText text = v.status := by
  simp only [ofDocument?, Option.bind_eq_bind, Option.bind_eq_some_iff, Option.pure_def] at h
  obtain ⟨field, -, _, -, _, -, _, -, status, hstatus, _, -, _, -, _, -, hv⟩ := h
  cases hv
  obtain ⟨d, hd⟩ := Slot.exists_of_required hstatus
  exact exists_of_map_text? hd

theorem Snapshot.exists_of_ofDocument? {s : Snapshot} (h : ofDocument? d = some s) :
    ∃ text, SnapshotStatus.ofText text = s.status := by
  simp only [ofDocument?, Option.bind_eq_bind, Option.bind_eq_some_iff, Option.pure_def] at h
  obtain ⟨field, -, _, -, _, -, _, -, status, hstatus, _, -, _, -, hs⟩ := h
  cases hs
  obtain ⟨d, hd⟩ := Slot.exists_of_required hstatus
  exact exists_of_map_text? hd

theorem VmRequest.canonical_of_ofDocument? {r : VmRequest} (h : ofDocument? d = some r) :
    r.environment.Canonical := by
  simp only [ofDocument?, Option.bind_eq_bind, Option.bind_eq_some_iff, Option.pure_def] at h
  obtain ⟨field, -, _, -, _, -, _, -, _, -, _, -, environment, henvironment, hr⟩ := h
  cases hr
  obtain rfl | ⟨d, hd⟩ := Slot.eq_or_exists_of_defaulted henvironment
  · trivial
  · exact canonical_of_toJson? d environment hd

end

/-! ## All types -/

/-- The types on the wire. -/
inductive WireType where
  | server
  | volume
  | attachment
  | snapshot
  | flavor
  | port
  | pool
  | poolMember
  | networkSpec
  | network
  | networkConfig
  | vmProperties
  | diskProperties
  | vmResources
  | retryPolicies
  | vmRequest
  | calculatedVmProperties
  | diskHint
  | info
  | configDrive
  | connectionProperties

namespace WireType

/-- The values of a type. -/
abbrev Value : WireType → Type
  | server => Server
  | volume => Volume
  | attachment => Attachment
  | snapshot => Snapshot
  | flavor => Flavor
  | port => Port
  | pool => Pool
  | poolMember => PoolMember
  | networkSpec => NetworkSpec
  | network => Network
  | networkConfig => NetworkConfig
  | vmProperties => VmProperties
  | diskProperties => DiskProperties
  | vmResources => VmResources
  | retryPolicies => RetryPolicies
  | vmRequest => VmRequest
  | calculatedVmProperties => CalculatedVmProperties
  | diskHint => DiskHint
  | info => Info
  | configDrive => ConfigDrive
  | connectionProperties => ConnectionProperties

/-- The JSON form of a value. -/
def toJson : (w : WireType) → w.Value → Json
  | server, s => Server.toJson s
  | volume, v => Volume.toJson v
  | attachment, a => Attachment.toJson a
  | snapshot, s => Snapshot.toJson s
  | flavor, f => Flavor.toJson f
  | port, p => Port.toJson p
  | pool, p => Pool.toJson p
  | poolMember, m => PoolMember.toJson m
  | networkSpec, s => NetworkSpec.toJson s
  | network, n => Network.toJson n
  | networkConfig, c => NetworkConfig.toJson c
  | vmProperties, p => VmProperties.toJson p
  | diskProperties, p => DiskProperties.toJson p
  | vmResources, r => VmResources.toJson r
  | retryPolicies, p => RetryPolicies.toJson p
  | vmRequest, r => VmRequest.toJson r
  | calculatedVmProperties, p => CalculatedVmProperties.toJson p
  | diskHint, h => DiskHint.toJson h
  | info, i => Info.toJson i
  | configDrive, d => ConfigDrive.toJson d
  | connectionProperties, p => ConnectionProperties.toJson p

/-- Read a value. -/
def ofDocument? : (w : WireType) → Document → Option w.Value
  | server => Server.ofDocument?
  | volume => Volume.ofDocument?
  | attachment => Attachment.ofDocument?
  | snapshot => Snapshot.ofDocument?
  | flavor => Flavor.ofDocument?
  | port => Port.ofDocument?
  | pool => Pool.ofDocument?
  | poolMember => PoolMember.ofDocument?
  | networkSpec => NetworkSpec.ofDocument?
  | network => Network.ofDocument?
  | networkConfig => NetworkConfig.ofDocument?
  | vmProperties => VmProperties.ofDocument?
  | diskProperties => DiskProperties.ofDocument?
  | vmResources => VmResources.ofDocument?
  | retryPolicies => RetryPolicies.ofDocument?
  | vmRequest => VmRequest.ofDocument?
  | calculatedVmProperties => CalculatedVmProperties.ofDocument?
  | diskHint => DiskHint.ofDocument?
  | info => Info.ofDocument?
  | configDrive => ConfigDrive.ofDocument?
  | connectionProperties => ConnectionProperties.ofDocument?

/-- A value in which every status is one that some text leads to, and every JSON value is
    canonical. -/
def Valid : (w : WireType) → w.Value → Prop
  | server, s => ∃ text, ServerStatus.ofText text = s.status
  | volume, v => ∃ text, VolumeStatus.ofText text = v.status
  | snapshot, s => ∃ text, SnapshotStatus.ofText text = s.status
  | vmRequest, r => r.environment.Canonical
  | _, _ => True

theorem ofDocument?_toJson {w : WireType} {v : w.Value} (h : w.Valid v) :
    w.ofDocument? (w.toJson v).toDocument = some v := by
  cases w with
  | server => exact Server.ofDocument?_toJson h
  | volume => exact Volume.ofDocument?_toJson h
  | attachment => exact Attachment.ofDocument?_toJson v
  | snapshot => exact Snapshot.ofDocument?_toJson h
  | flavor => exact Flavor.ofDocument?_toJson v
  | port => exact Port.ofDocument?_toJson v
  | pool => exact Pool.ofDocument?_toJson v
  | poolMember => exact PoolMember.ofDocument?_toJson v
  | networkSpec => exact NetworkSpec.ofDocument?_toJson v
  | network => exact Network.ofDocument?_toJson v
  | networkConfig => exact NetworkConfig.ofDocument?_toJson v
  | vmProperties => exact VmProperties.ofDocument?_toJson v
  | diskProperties => exact DiskProperties.ofDocument?_toJson v
  | vmResources => exact VmResources.ofDocument?_toJson v
  | retryPolicies => exact RetryPolicies.ofDocument?_toJson v
  | vmRequest => exact VmRequest.ofDocument?_toJson h
  | calculatedVmProperties => exact CalculatedVmProperties.ofDocument?_toJson v
  | diskHint => exact DiskHint.ofDocument?_toJson v
  | info => exact Info.ofDocument?_toJson v
  | configDrive => exact ConfigDrive.ofDocument?_toJson v
  | connectionProperties => exact ConnectionProperties.ofDocument?_toJson v

/-- Whatever is read is valid. -/
theorem valid_of_ofDocument? {w : WireType} {v : w.Value} {d : Document}
    (h : w.ofDocument? d = some v) : w.Valid v := by
  cases w with
  | server => exact Server.exists_of_ofDocument? h
  | volume => exact Volume.exists_of_ofDocument? h
  | snapshot => exact Snapshot.exists_of_ofDocument? h
  | vmRequest => exact VmRequest.canonical_of_ofDocument? h
  | _ => trivial

/-- Every type on the wire survives a round trip, from the value to JSON and back, and from a
    document that is accepted, which may be that of a JSON value, to the value, to JSON and back.
    A status is written as the text it was read from, but for a server status that is a name up
    to its case, which is written as the name; reading it again leads to the same status. -/
theorem restores :
    (∀ (w : WireType) (v : w.Value), w.Valid v →
        w.ofDocument? (w.toJson v).toDocument = some v) ∧
      (∀ (w : WireType) (d : Document) (v : w.Value), w.ofDocument? d = some v →
        w.ofDocument? (w.toJson v).toDocument = some v) ∧
      ∀ s : String,
        (VolumeStatus.ofText s).toJson = .string s ∧
        (SnapshotStatus.ofText s).toJson = .string s ∧
        (∀ name ∈ ServerStatus.named.map (·.1), Text.matchesUppercase s name = true →
          (ServerStatus.ofText s).toJson = .string name) ∧
        ((∀ name ∈ ServerStatus.named.map (·.1), Text.matchesUppercase s name = false) →
          (ServerStatus.ofText s).toJson = .string s) ∧
        VolumeStatus.ofText (VolumeStatus.ofText s).text = VolumeStatus.ofText s ∧
        SnapshotStatus.ofText (SnapshotStatus.ofText s).text = SnapshotStatus.ofText s ∧
        ServerStatus.ofText (ServerStatus.ofText s).text = ServerStatus.ofText s := by
  refine ⟨fun w v h => ofDocument?_toJson h,
    fun w d v h => ofDocument?_toJson (valid_of_ofDocument? h), fun s => ?_⟩
  refine ⟨congrArg Json.string (VolumeStatus.text_ofText s),
    congrArg Json.string (SnapshotStatus.text_ofText s),
    fun name hname h => congrArg Json.string (ServerStatus.text_ofText_of_matches hname h),
    fun h => congrArg Json.string (ServerStatus.text_ofText_of_not_matches h),
    congrArg VolumeStatus.ofText (VolumeStatus.text_ofText s),
    congrArg SnapshotStatus.ofText (SnapshotStatus.text_ofText s),
    ServerStatus.ofText_text_ofText s⟩

/-- A server with a status that some text leads to. -/
def shutServer : Server := ⟨"vm-1", "vm", .shutoff, "small", ∅, none⟩

/-- The other spelling of a kind of config drive. -/
def cdromDocument : Document := .object [("cdrom", .null)]

/-- A server and a kind of config drive come back, the latter in another spelling; so does the
    status of the server, from a text that is its name only in upper case. -/
theorem restores_shutServer :
    server.Valid shutServer ∧ server.ofDocument? shutServer.toJson.toDocument = some shutServer ∧
      configDrive.ofDocument? cdromDocument = some .cdrom ∧
      configDrive.ofDocument? (ConfigDrive.toJson .cdrom).toDocument = some .cdrom ∧
      Text.matchesUppercase "ſhutoﬀ" "SHUTOFF" = true ∧
      (ServerStatus.ofText "ſhutoﬀ").toJson = .string "SHUTOFF" ∧
      (∀ name ∈ ServerStatus.named.map (·.1), Text.matchesUppercase "resized" name = false) ∧
      (ServerStatus.ofText "resized").toJson = .string "resized" := by
  obtain ⟨hvalues, hdocuments, hstatuses⟩ := restores
  have hvalid : server.Valid shutServer := ⟨"ſhutoﬀ", by decide⟩
  have hdrive : configDrive.ofDocument? cdromDocument = some .cdrom := rfl
  have hname : Text.matchesUppercase "ſhutoﬀ" "SHUTOFF" = true := by decide
  have hother : ∀ name ∈ ServerStatus.named.map (·.1),
      Text.matchesUppercase "resized" name = false := by decide
  obtain ⟨-, -, hmatches, -⟩ := hstatuses "ſhutoﬀ"
  obtain ⟨-, -, -, hnotMatches, -⟩ := hstatuses "resized"
  exact ⟨hvalid, hvalues server shutServer hvalid, hdrive,
    hdocuments configDrive cdromDocument .cdrom hdrive, hname, hmatches "SHUTOFF" (by decide) hname,
    hother, hnotMatches hother⟩

end WireType

end CloudProvider
