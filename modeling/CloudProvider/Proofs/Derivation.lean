import CloudProvider.Metadata

/-!
# What is derived from metadata

What a caller said under a name, what the name of a server is made of, and what a snapshot is
told: each is said here by look-ups in what the caller handed over, so that nothing depends on
the order in which the metadata are rewritten.

* `CallerMetadata.text?`: what a caller said under a name;
* `CallerMetadata.Names`: how a caller names a server, by `serverName?_eq_some_iff`;
* `Metadata.IsDeviceName`: what comes after the last slash, by `isDeviceName_iff`;
* `Metadata.get?_forSnapshot`: the metadata of a snapshot, name by name. Deriving them once more
  changes nothing (`forSnapshot_forSnapshot`).
-/

namespace CloudProvider

/-! ## Texts -/

namespace CallerMetadata

variable {m : CallerMetadata} {key : String}

/-- What a caller said under a name: a text of its own or that of another value, but nothing for
    `null` or under the empty name. -/
def text? (m : CallerMetadata) (key : String) : Option String :=
  if key = "" then none else (m.get? key).bind valueText?

theorem get?_toMetadata (m : CallerMetadata) (key : String) :
    m.toMetadata.get? key = m.text? key := by
  rw [toMetadata, Table.get?_filterMap, text?]
  by_cases hkey : key = "" <;> simp [hkey]

theorem text?_eq_none_iff :
    m.text? key = none ↔ key = "" ∨ m.get? key = none ∨ m.get? key = some .null := by
  have hvalue (value : Json) : valueText? value = none ↔ value = .null := by
    cases value <;> simp [valueText?]
  rw [text?]
  by_cases hkey : key = ""
  · simp [hkey]
  · cases hget : m.get? key <;> simp [hkey, hvalue]

/-- How a caller names a server: by a name that is not empty, or else by job and index. -/
inductive Names (m : CallerMetadata) : String → Prop
  | given {name : String} : m.text? "name" = some name → name ≠ "" → Names m name
  | derived {job index : String} : (∀ name, m.text? "name" = some name → name = "") →
      m.text? "job" = some job → m.text? "index" = some index → Names m (job ++ "/" ++ index)

theorem serverName?_eq_some_iff {name : String} :
    m.toMetadata.serverName? = some name ↔ m.Names name := by
  have hgiven {given : String} :
      (m.text? "name").filter (· ≠ "") = some given ↔ m.text? "name" = some given ∧ given ≠ "" := by
    rw [Option.filter_eq_some_iff, decide_eq_true_iff]
  have hempty : (m.text? "name").filter (· ≠ "") = none ↔
      ∀ given, m.text? "name" = some given → given = "" := by
    simp [Option.filter_eq_none_iff]
  simp only [Metadata.serverName?, get?_toMetadata]
  constructor
  · intro h
    cases hname : (m.text? "name").filter (· ≠ "") with
    | some given =>
      rw [hname, Option.some_or] at h
      obtain rfl := Option.some.inj h
      exact .given (hgiven.1 hname).1 (hgiven.1 hname).2
    | none =>
      rw [hname, Option.none_or] at h
      split at h
      · rename_i job index hjob hindex
        obtain rfl := Option.some.inj h
        exact .derived (hempty.1 hname) hjob hindex
      · exact absurd h.symm (Option.some_ne_none name)
  · intro h
    cases h with
    | given hname hne => rw [hgiven.2 ⟨hname, hne⟩, Option.some_or]
    | derived hname hjob hindex => rw [hempty.2 hname, hjob, hindex, Option.none_or]

end CallerMetadata

/-! ## Devices -/

theorem Text.lastSegment_of_mem {sep : Char} {s : List Char} (h : sep ∈ s) :
    sep ∉ lastSegment sep s ∧ ∃ a, s = a ++ sep :: lastSegment sep s := by
  induction s with
  | nil => exact absurd h List.not_mem_nil
  | cons c s ih =>
    by_cases hs : sep ∈ s
    · obtain ⟨hlast, a, ha⟩ := ih hs
      rw [lastSegment, if_pos hs]
      exact ⟨hlast, c :: a, congrArg _ ha⟩
    · obtain rfl : sep = c := (List.mem_cons.1 h).resolve_right hs
      rw [lastSegment, if_neg hs, if_pos rfl]
      exact ⟨hs, [], rfl⟩

namespace Metadata

/-- The name of a device is what comes after the last slash of its path. -/
def IsDeviceName (name device : String) : Prop :=
  '/' ∉ name.toList ∧ (device = name ∨ ∃ before, device = before ++ "/" ++ name)

theorem isDeviceName_iff {name device : String} :
    IsDeviceName name device ↔ name = deviceName device := by
  constructor
  · rintro ⟨hname, rfl | ⟨before, rfl⟩⟩
    · rw [deviceName, Text.lastSegment_of_not_mem hname, String.ofList_toList]
    · have hdevice : (before ++ "/" ++ name).toList = before.toList ++ '/' :: name.toList := by
        simp [String.toList_append]
      rw [deviceName, hdevice, Text.lastSegment_append _ hname, String.ofList_toList]
  · rintro rfl
    by_cases hslash : '/' ∈ device.toList
    · obtain ⟨hname, before, hbefore⟩ := Text.lastSegment_of_mem hslash
      refine ⟨by rwa [deviceName, String.toList_ofList], .inr ⟨String.ofList before, ?_⟩⟩
      rw [deviceName, ← String.toList_inj, String.toList_append, String.toList_append,
        String.toList_ofList, List.append_assoc, String.toList_ofList]
      simpa using hbefore
    · rw [deviceName, Text.lastSegment_of_not_mem hslash, String.ofList_toList]
      exact ⟨hslash, .inl rfl⟩

/-! ## The metadata of a snapshot -/

theorem rename_of_none {m : Metadata} {name : String} (h : m.get? name = none) (name' : String) :
    m.rename name name' = m := by
  rw [rename, h]

theorem get?_rename (m : Metadata) {name name' : String} (hname : name ≠ name') (key : String) :
    (m.rename name name').get? key =
      if key = name' then (m.get? name).or (m.get? name')
      else if key = name then none else m.get? key := by
  cases hget : m.get? name with
  | none =>
    rw [rename_of_none hget]
    by_cases hkey : key = name' <;> by_cases hkey' : key = name <;> simp_all
  | some value =>
    rw [rename, hget]
    simp [Table.get?_insert, Table.get?_erase]

theorem foldJob_of_none {m : Metadata} (h : m.get? "job" = none) : m.foldJob = m := by
  rw [foldJob, h]

theorem get?_foldJob (m : Metadata) (key : String) :
    m.foldJob.get? key =
      if key = "instance_name" then
        ((m.get? "job").map fun job => job ++ "/" ++ m.orNotSet "instance_id").or
          (m.get? "instance_name")
      else if key = "job" then none else m.get? key := by
  cases hget : m.get? "job" with
  | none =>
    rw [foldJob_of_none hget]
    by_cases hkey : key = "instance_name" <;> by_cases hkey' : key = "job" <;> simp_all
  | some job =>
    rw [foldJob, hget]
    simp [Table.get?_insert, Table.get?_erase, orNotSet]

/-- The metadata of a snapshot, name by name. -/
theorem get?_forSnapshot (m : Metadata) (key : String) :
    m.forSnapshot.get? key =
      if key = "instance_name" then
        ((m.get? "job").map fun job => job ++ "/" ++ m.orNotSet "instance_id").or
          (m.get? "instance_name")
      else if key = "instance_index" then (m.get? "index").or (m.get? "instance_index")
      else if key = "director" then (m.get? "director_name").or (m.get? "director")
      else if key = "job" ∨ key = "index" ∨ key = "director_name" then none
      else m.get? key := by
  have hrenamed (key : String) :
      ((m.rename "director_name" "director").rename "index" "instance_index").get? key =
        if key = "instance_index" then (m.get? "index").or (m.get? "instance_index")
        else if key = "index" then none
        else if key = "director" then (m.get? "director_name").or (m.get? "director")
        else if key = "director_name" then none else m.get? key := by
    simp [get?_rename]
  have hid : ((m.rename "director_name" "director").rename "index" "instance_index").orNotSet
      "instance_id" = m.orNotSet "instance_id" := by
    simp [orNotSet, hrenamed]
  rw [forSnapshot, get?_foldJob, hid, hrenamed, hrenamed, hrenamed]
  -- The names that are dropped come in another order here; for any other key nothing is left to do.
  by_cases hjob : key = "job"
  · simp [hjob]
  by_cases hindex : key = "index"
  · simp [hindex]
  by_cases hdirector : key = "director_name"
  · simp [hdirector]
  simp [hjob, hindex, hdirector]

/-- There is nothing left to derive from the metadata of a snapshot. -/
theorem forSnapshot_forSnapshot (m : Metadata) : m.forSnapshot.forSnapshot = m.forSnapshot := by
  have hdirector : m.forSnapshot.get? "director_name" = none := by simp [get?_forSnapshot]
  have hindex : m.forSnapshot.get? "index" = none := by simp [get?_forSnapshot]
  have hjob : m.forSnapshot.get? "job" = none := by simp [get?_forSnapshot]
  rw [forSnapshot, rename_of_none hdirector, rename_of_none hindex, foldJob_of_none hjob]

end Metadata

end CloudProvider
