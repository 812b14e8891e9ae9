import CloudProvider.Proofs.Tags
import Mathlib.Data.List.Nodup

/-!
# Memberships decoded

A membership and its tag say the same, unless the slash between pool and member is not the
first one of the tag or has nothing on one of its sides. So metadata are read in one way only:
what is read is what, written down again, gives their tags. However many memberships are
written, each has a name of its own, and all come back in the order of these names, in which
the tenth stands before the second.

* `Legible`: the memberships that their tags say, by `ofTag?_eq_some_iff`;
* `ofEntries_eq_ok_iff`: entries are read as the memberships they are the tags of;
* `exists_of_ofMetadata_error`: what is not read has a tag that makes no sense;
* `ofMetadata_decodes`: all of this together.
-/

namespace CloudProvider

/-- Where names are distinct, a table has the entries it was made from. -/
theorem Table.entries_ofList_perm {α : Type} {l : List (String × α)}
    (h : l.Pairwise fun a b => a.1 ≠ b.1) : (ofList l).entries.Perm l := by
  have hnodup {l : List (String × α)} (h : l.Pairwise fun a b => a.1 ≠ b.1) : l.Nodup :=
    h.imp fun hname heq => hname (congrArg Prod.fst heq)
  rw [List.perm_ext_iff_of_nodup (hnodup (ofList l).distinct) (hnodup h)]
  exact fun _ => mem_entries.trans (get?_ofList_eq_some_iff h)

namespace Membership

variable {ms : List Membership} {m : Membership} {s vmId : String} {l : List (String × String)}
  {decoded : List (String × Membership)} {metadata other : Metadata} {e : OperationError}

/-! ## Tags -/

/-- A membership that its tag says: there is a pool and a member, and the first slash of the tag
    is the one between them. -/
def Legible (m : Membership) : Prop :=
  m.poolId ≠ "" ∧ '/' ∉ m.poolId.toList ∧ m.memberId ≠ ""

theorem ofTag?_eq_some_iff : ofTag? s = some m ↔ m.tag = s ∧ m.Legible := by
  constructor
  · intro h
    obtain rfl := tag_of_ofTag? h
    exact ⟨rfl, ofTag?_tag_iff.1 h⟩
  · rintro ⟨rfl, h⟩
    exact ofTag?_tag_iff.2 h

/-! ## Entries -/

/-- A name and the tag of a membership. -/
def entry (e : String × Membership) : String × String := (e.1, e.2.tag)

/-- Entries are read as the memberships they are the tags of. -/
theorem ofEntries_eq_ok_iff :
    ofEntries vmId l = .ok decoded ↔ l = decoded.map entry ∧ ∀ e ∈ decoded, e.2.Legible := by
  constructor
  · intro h
    induction l generalizing decoded with
    | nil =>
      cases h
      exact ⟨rfl, List.forall_mem_nil _⟩
    | cons e l ih =>
      obtain ⟨m, rest, htag, hrest, rfl⟩ := ofEntries_cons_ok h
      obtain ⟨rfl, hlegible⟩ := ih hrest
      obtain ⟨hm, hm'⟩ := ofTag?_eq_some_iff.1 htag
      exact ⟨by rw [List.map_cons, entry, hm], List.forall_mem_cons.2 ⟨hm', hlegible⟩⟩
  · rintro ⟨rfl, h⟩
    induction decoded with
    | nil => rfl
    | cons e decoded ih =>
      obtain ⟨hm, hlegible⟩ := List.forall_mem_cons.1 h
      rw [List.map_cons, entry, ofEntries_cons_some _ _ _ (ofTag?_eq_some_iff.2 ⟨rfl, hm⟩),
        ih hlegible]
      rfl

/-! ## Metadata -/

theorem isTagName_iff {name : String} :
    isTagName name = true ↔ ∃ rest, name = tagStart ++ rest := by
  rw [isTagName, List.isPrefixOf_iff_prefix]
  constructor
  · rintro ⟨rest, hrest⟩
    exact ⟨String.ofList rest, by
      rw [← String.toList_inj, String.toList_append, String.toList_ofList, hrest]⟩
  · rintro ⟨rest, rfl⟩
    rw [String.toList_append]
    exact List.prefix_append _ _

/-- What is not read has a tag that makes no sense, and the fault names it. -/
theorem exists_of_ofMetadata_error (h : ofMetadata vmId metadata = .error e) :
    ∃ rest value, metadata.get? (tagStart ++ rest) = some value ∧ ofTag? value = none ∧
      e = malformed vmId (tagStart ++ rest) value := by
  obtain ⟨name, value, hmem, hvalue, rfl⟩ := exists_of_ofEntries_error h
  obtain ⟨hentry, hname⟩ := List.mem_filter.1 hmem
  obtain ⟨rest, rfl⟩ := isTagName_iff.1 hname
  exact ⟨rest, value, Table.mem_entries.1 hentry, hvalue, rfl⟩

/-- A tag that makes no sense spoils all others. -/
theorem exists_ofMetadata_error {rest value : String} (vmId : String)
    (h : metadata.get? (tagStart ++ rest) = some value) (hvalue : ofTag? value = none) :
    ∃ e, ofMetadata vmId metadata = .error e := by
  have hmem : (tagStart ++ rest, value) ∈ metadata.entries.filter (isTagName ·.1) :=
    List.mem_filter.2 ⟨Table.mem_entries.2 h, isTagName_iff.2 ⟨rest, rfl⟩⟩
  obtain ⟨reason, hreason⟩ := ofEntries_malformed vmId hmem hvalue
  exact ⟨_, hreason⟩

/-- Memberships with the names of their tags, numbered from one. -/
def numbered (ms : List Membership) : List (String × Membership) :=
  ms.mapIdx fun i m => (tagName (i + 1), m)

theorem map_numbered (ms : List Membership) : (numbered ms).map entry = tagsFrom 1 ms := by
  -- By induction on the list, whatever the first number.
  have hfrom (n : Nat) : (ms.mapIdx fun i m => (tagName (i + n), m)).map entry = tagsFrom n ms := by
    induction ms generalizing n with
    | nil => rfl
    | cons m ms ih =>
      rw [List.mapIdx_cons, List.map_cons, tagsFrom, ← ih (n + 1), Nat.zero_add]
      simp only [Nat.add_assoc, Nat.add_comm 1]
      rfl
  exact hfrom 1

theorem numbered_distinct (ms : List Membership) :
    (numbered ms).Pairwise fun a b => a.1 ≠ b.1 := by
  have hdistinct := tagsFrom_distinct 1 ms
  rw [← map_numbered, List.pairwise_map] at hdistinct
  exact hdistinct

/-- The tags of memberships are those of the memberships under their names. -/
theorem map_ofList_numbered (ms : List Membership) :
    (Table.ofList (numbered ms)).map tag = tags ms := by
  ext name value : 2
  rw [Table.get?_map, Option.map_eq_some_iff, tags,
    Table.get?_ofList_eq_some_iff (tagsFrom_distinct 1 ms), ← map_numbered, List.mem_map]
  constructor
  · rintro ⟨m, hm, rfl⟩
    exact ⟨(name, m), (Table.get?_ofList_eq_some_iff (numbered_distinct ms)).1 hm, rfl⟩
  · rintro ⟨⟨name', m⟩, hm, heq⟩
    obtain ⟨rfl, rfl⟩ := Prod.mk.inj heq
    exact ⟨m, (Table.get?_ofList_eq_some_iff (numbered_distinct ms)).2 hm, rfl⟩

/-- Metadata that agree with the tags of memberships have these tags and no others. -/
theorem filter_isTagName
    (h : ∀ name, isTagName name = true → metadata.get? name = (tags ms).get? name) :
    metadata.entries.filter (isTagName ·.1) = (tags ms).entries := by
  have hsorted := metadata.sorted.filter (isTagName ·.1)
  have hdistinct := metadata.distinct.filter (isTagName ·.1)
  refine Table.eq_of_lookup hsorted (tags ms).sorted fun name => Option.ext fun value => ?_
  rw [Table.lookup_eq_some_iff_mem hdistinct, mem_filter_isTagName h]
  exact (Table.get?_ofList_eq_some_iff (tagsFrom_distinct 1 ms)).symm

theorem size_tags (ms : List Membership) : (tags ms).size = ms.length := by
  have hlength : (tagsFrom 1 ms).length = ms.length := by
    rw [← map_numbered, List.length_map, numbered, List.length_mapIdx]
  rw [Table.size, tags, (Table.entries_ofList_perm (tagsFrom_distinct 1 ms)).length_eq, hlength]

/-- Memberships that were written into metadata without tags are read in the order of their
    names. -/
theorem ofMetadata_union_tags (vmId : String) (hms : ∀ m ∈ ms, m.Legible)
    (hother : ∀ rest, other.get? (tagStart ++ rest) = none) :
    ofMetadata vmId (other.union (tags ms)) = .ok (Table.ofList (numbered ms)).entries := by
  have htags {name : String} (hname : isTagName name = true) :
      (other.union (tags ms)).get? name = (tags ms).get? name := by
    obtain ⟨rest, rfl⟩ := isTagName_iff.1 hname
    rw [Table.get?_union, hother, Option.or_none]
  -- The table of the numbered memberships has them in order, and their tags as well.
  refine ofEntries_eq_ok_iff.2 ⟨?_, fun e he => ?_⟩
  · rw [filter_isTagName fun _ => htags, ← map_ofList_numbered]
    rfl
  · obtain ⟨i, hi, rfl⟩ := List.mem_mapIdx.1 (Table.mem_of_mem_entries_ofList he)
    exact hms _ (List.getElem_mem hi)

/-- What a tag is read as has this tag, and a membership is read from its tag if it is legible.
    Any number of legible memberships is read from metadata without other tags, each under its
    name and in the order of the names. Metadata are read unless a tag makes no sense. -/
theorem ofMetadata_decodes (vmId : String) :
    (∀ s m, ofTag? s = some m → m.tag = s) ∧
    (∀ m : Membership, ofTag? m.tag = some m ↔ m.Legible) ∧
    (∀ (ms : List Membership) (other : Metadata), (∀ m ∈ ms, m.Legible) →
      (∀ rest, other.get? (tagStart ++ rest) = none) →
        (tags ms).size = ms.length ∧
        ∃ decoded, ofMetadata vmId (other.union (tags ms)) = .ok decoded ∧
          decoded.Perm (numbered ms) ∧ decoded.Pairwise fun a b => a.1 < b.1) ∧
    ∀ metadata : Metadata, (∃ e, ofMetadata vmId metadata = .error e) ↔
      ∃ rest value, metadata.get? (tagStart ++ rest) = some value ∧ ofTag? value = none := by
  refine ⟨fun _ _ => tag_of_ofTag?, fun _ => ofTag?_tag_iff, fun ms other hms hother => ?_,
    fun metadata => ⟨?_, ?_⟩⟩
  · exact ⟨size_tags ms, _, ofMetadata_union_tags vmId hms hother,
      Table.entries_ofList_perm (numbered_distinct ms), (Table.ofList (numbered ms)).sorted⟩
  · rintro ⟨e, he⟩
    obtain ⟨rest, value, hget, hvalue, -⟩ := exists_of_ofMetadata_error he
    exact ⟨rest, value, hget, hvalue⟩
  · rintro ⟨rest, value, hget, hvalue⟩
    exact exists_ofMetadata_error vmId hget hvalue

/-- Ten members of one pool, the first of which has a slash in its id. -/
def tenMembers : List Membership :=
  ["m/1", "m2", "m3", "m4", "m5", "m6", "m7", "m8", "m9", "m10"].map (⟨"pool", ·⟩)

/-- The tenth of ten memberships comes second. Beside a name that is almost that of a tag all ten
    are read, but beside a tag that lacks its pool none is. -/
theorem ofMetadata_decodes_tenMembers :
    let other : Metadata := .ofList [("job", "web"), ("lbaas_pool", "pool/m")]
    (∀ m ∈ tenMembers, m.Legible) ∧ (∀ rest, other.get? (tagStart ++ rest) = none) ∧
      (tags tenMembers).size = 10 ∧
      (∃ decoded, ofMetadata "vm" (other.union (tags tenMembers)) = .ok decoded ∧
        decoded.Perm (numbered tenMembers) ∧ (decoded.Pairwise fun a b => a.1 < b.1) ∧
        decoded.map (·.2.memberId) =
          ["m/1", "m10", "m2", "m3", "m4", "m5", "m6", "m7", "m8", "m9"]) ∧
      ∃ e, ofMetadata "vm" ((tags tenMembers).insert "lbaas_pool_" "/m") = .error e := by
  intro other
  have hlegible : ∀ m ∈ tenMembers, m.Legible := by
    unfold Legible
    decide
  have hother (rest : String) : other.get? (tagStart ++ rest) = none := by
    have hnone : ∀ e ∈ other.entries, isTagName e.1 = false := by decide +kernel
    refine Option.eq_none_iff_forall_ne_some.2 fun value hget => ?_
    have hname := hnone _ (Table.mem_entries.2 hget)
    rw [isTagName_iff.2 ⟨rest, rfl⟩] at hname
    cases hname
  obtain ⟨-, -, hread, hfails⟩ := ofMetadata_decodes "vm"
  obtain ⟨hsize, decoded, hdecoded, hperm, hsorted⟩ := hread tenMembers other hlegible hother
  have hmembers : (ofMetadata "vm" (other.union (tags tenMembers))).toOption.map
      (·.map (·.2.memberId)) =
        some ["m/1", "m10", "m2", "m3", "m4", "m5", "m6", "m7", "m8", "m9"] := by decide +kernel
  rw [hdecoded] at hmembers
  have hspoilt : ((tags tenMembers).insert "lbaas_pool_" "/m").get? (tagStart ++ "") = some "/m" :=
    Table.get?_insert_self _ _ _
  exact ⟨hlegible, hother, hsize,
    ⟨decoded, hdecoded, hperm, hsorted, Option.some.inj hmembers⟩,
    (hfails _).2 ⟨"", "/m", hspoilt, by decide +kernel⟩⟩

end Membership

end CloudProvider
