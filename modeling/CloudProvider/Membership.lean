import CloudProvider.Fault.Operation
import CloudProvider.Resource.Basic
import CloudProvider.Text.Split

/-!
# Pool memberships

A server remembers the pools it takes part in as numbered tags in its metadata,
each a pool and a member with a slash between them. The first slash of a tag is
the one that counts, so a pool with a slash in its id cannot be remembered.

* `Membership.ofTag?`, `Membership.tag`: a membership and its tag;
* `Membership.ofTag?_tag_iff`: which memberships survive being written;
* `Membership.tags`: the tags of a list of memberships;
* `Membership.ofMetadata`: the memberships in the metadata of a server.
-/

namespace CloudProvider

/-- A member of a pool. -/
structure Membership where
  poolId : String
  memberId : String
  deriving DecidableEq, Inhabited

namespace Membership

/-- What the name of a tag begins with. -/
def tagStart : String := "lbaas_pool_"

/-- The membership that a tag stands for. -/
def ofTag? (s : String) : Option Membership :=
  match Text.cut '/' s.toList with
  | some (pool, member) =>
    if pool = [] ∨ member = [] then none
    else some ⟨String.ofList pool, String.ofList member⟩
  | none => none

/-- The tag of a membership. -/
def tag (m : Membership) : String := m.poolId ++ "/" ++ m.memberId

theorem tag_of_ofTag? {s : String} {m : Membership} (h : ofTag? s = some m) : m.tag = s := by
  unfold ofTag? at h
  split at h
  · rename_i pool member hcut
    split at h
    · cases h
    · cases h
      -- Put together again, the two parts of a cut are the text.
      obtain ⟨hs, -⟩ := Text.cut_eq_some_iff.1 hcut
      rw [← String.toList_inj]
      simp [tag, hs]
  · cases h

theorem ofTag?_tag_iff {m : Membership} :
    ofTag? m.tag = some m ↔ m.poolId ≠ "" ∧ '/' ∉ m.poolId.toList ∧ m.memberId ≠ "" := by
  obtain ⟨pool, member⟩ := m
  constructor
  · intro h
    unfold ofTag? at h
    split at h
    · rename_i p q hcut
      split at h
      · cases h
      · rename_i hne
        obtain ⟨-, hp⟩ := Text.cut_eq_some_iff.1 hcut
        cases h
        simp only [not_or] at hne
        simpa [hp] using hne
    · cases h
  · rintro ⟨hp, hs, hm⟩
    have hcut : Text.cut '/' (tag ⟨pool, member⟩).toList = some (pool.toList, member.toList) :=
      Text.cut_eq_some_iff.2 ⟨by simp [tag], hs⟩
    simp only [ofTag?, hcut]
    simpa using ⟨hp, hm⟩

/-- The name of the tag with a number. -/
def tagName (n : Nat) : String := tagStart ++ toString n

/-- The tags of a list of memberships, numbered from a number on. -/
def tagsFrom (n : Nat) : List Membership → List (String × String)
  | [] => []
  | m :: rest => (tagName n, m.tag) :: tagsFrom (n + 1) rest

/-- The tags of a list of memberships, numbered from one. -/
def tags (l : List Membership) : Metadata := .ofList (tagsFrom 1 l)

/-- Whether a name is that of a tag. -/
def isTagName (name : String) : Bool := tagStart.toList.isPrefixOf name.toList

/-- The fault of a tag that stands for no membership. -/
def malformed (vmId name value : String) : OperationError :=
  .validation <| "Malformed pool membership '" ++ name ++ "'='" ++ value ++ "' on VM '" ++ vmId ++
    "', expected '<pool_id>/<member_id>'"

/-- The memberships that entries of metadata stand for. -/
def ofEntries (vmId : String) :
    List (String × String) → Except OperationError (List (String × Membership))
  | [] => .ok []
  | (name, value) :: rest => do
    match ofTag? value with
    | some m => return (name, m) :: (← ofEntries vmId rest)
    | none => .error (malformed vmId name value)

/-- The memberships in the metadata of a server, in the order of their tags. A
    malformed tag spoils them all. -/
def ofMetadata (vmId : String) (m : Metadata) :
    Except OperationError (List (String × Membership)) :=
  ofEntries vmId (m.entries.filter fun e => isTagName e.1)

end Membership

end CloudProvider
