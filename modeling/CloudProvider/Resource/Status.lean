import CloudProvider.Text.Uppercase

/-!
# Statuses

What a backend reports about the state of a server, a volume or a snapshot. A
status that has no name of its own here is kept as the text it came as.

* `ServerStatus.ofText`: server statuses are matched after upper-casing,
* `VolumeStatus.ofText`, `SnapshotStatus.ofText`: the others as they stand;
* `VolumeStatus.text_ofText`, `SnapshotStatus.text_ofText`: these are written
  back as they were read.
-/

namespace CloudProvider

/-- The status of a server. -/
inductive ServerStatus where
  | active
  | build
  | reboot
  | hardReboot
  | shutoff
  | error
  | deleted
  | terminated
  | other (text : String)
  deriving DecidableEq, Inhabited

namespace ServerStatus

/-- The statuses that have a name. -/
def named : List (String × ServerStatus) :=
  [("ACTIVE", active), ("BUILD", build), ("REBOOT", reboot), ("HARD_REBOOT", hardReboot),
    ("SHUTOFF", shutoff), ("ERROR", error), ("DELETED", deleted), ("TERMINATED", terminated)]

/-- The status that a text reports, whatever its case. -/
def ofText (s : String) : ServerStatus :=
  ((named.find? fun n => Text.matchesUppercase s n.1).map (·.2)).getD (other s)

/-- The text of a status. -/
def text : ServerStatus → String
  | active => "ACTIVE"
  | build => "BUILD"
  | reboot => "REBOOT"
  | hardReboot => "HARD_REBOOT"
  | shutoff => "SHUTOFF"
  | error => "ERROR"
  | deleted => "DELETED"
  | terminated => "TERMINATED"
  | other s => s

/-- Whether a server in this status counts as one that no longer exists. -/
def isGone : ServerStatus → Bool
  | deleted | terminated => true
  | _ => false

end ServerStatus

/-- The status of a volume. -/
inductive VolumeStatus where
  | creating
  | available
  | attaching
  | inUse
  | detaching
  | extending
  | deleting
  | deleted
  | error
  | other (text : String)
  deriving DecidableEq, Inhabited

namespace VolumeStatus

/-- The statuses that have a name. -/
def named : List (String × VolumeStatus) :=
  [("creating", creating), ("available", available), ("attaching", attaching),
    ("in-use", inUse), ("detaching", detaching), ("extending", extending),
    ("deleting", deleting), ("deleted", deleted), ("error", error)]

/-- The status that a text reports. -/
def ofText (s : String) : VolumeStatus := (named.lookup s).getD (other s)

/-- The text of a status. -/
def text : VolumeStatus → String
  | creating => "creating"
  | available => "available"
  | attaching => "attaching"
  | inUse => "in-use"
  | detaching => "detaching"
  | extending => "extending"
  | deleting => "deleting"
  | deleted => "deleted"
  | error => "error"
  | other s => s

end VolumeStatus

/-- The status of a snapshot. -/
inductive SnapshotStatus where
  | creating
  | available
  | deleting
  | deleted
  | error
  | other (text : String)
  deriving DecidableEq, Inhabited

namespace SnapshotStatus

/-- The statuses that have a name. -/
def named : List (String × SnapshotStatus) :=
  [("creating", creating), ("available", available), ("deleting", deleting),
    ("deleted", deleted), ("error", error)]

/-- The status that a text reports. -/
def ofText (s : String) : SnapshotStatus := (named.lookup s).getD (other s)

/-- The text of a status. -/
def text : SnapshotStatus → String
  | creating => "creating"
  | available => "available"
  | deleting => "deleting"
  | deleted => "deleted"
  | error => "error"
  | other s => s

end SnapshotStatus

/-- A look-up in a list of names that are the texts of their values gives back
    the name; without one, so does the fallback. -/
theorem text_lookup_getD {α : Type} {text : α → String} {other : String → α}
    {named : List (String × α)} (hnamed : ∀ n ∈ named, text n.2 = n.1)
    (hother : ∀ s, text (other s) = s) (s : String) :
    text ((named.lookup s).getD (other s)) = s := by
  induction named with
  | nil => exact hother s
  | cons n named ih =>
    obtain ⟨name, value⟩ := n
    by_cases h : s = name
    · subst h
      simpa using hnamed (s, value) List.mem_cons_self
    · rw [List.lookup_cons, beq_eq_false_iff_ne.2 h]
      exact ih fun n hn => hnamed n (List.mem_cons_of_mem _ hn)

theorem VolumeStatus.text_ofText (s : String) : (ofText s).text = s :=
  text_lookup_getD (by decide) (fun _ => rfl) s

theorem SnapshotStatus.text_ofText (s : String) : (ofText s).text = s :=
  text_lookup_getD (by decide) (fun _ => rfl) s

end CloudProvider
