import CloudProvider.Membership

/-!
# Memberships written and read

The tags that a server is given for its memberships are read back as these memberships,
however many there are and whatever else its metadata hold. Tags come back in the order of
their names, in which the tenth stands before the second, so memberships are compared as
sets.

* `tagsFrom_distinct`: no two tags have the same name;
* `ofEntries_ok`, `ofEntries_malformed`: entries that stand for memberships are read, and one
  that does not spoils all others;
* `ofMetadata_of_tags`: metadata with the tags of some memberships are read as these.
-/

namespace CloudProvider.Membership

variable {ms : List Membership} {m : Membership} {n : Nat} {e : String × String}
  {metadata : Metadata}

/-! ## Tags -/

theorem tagName_injective {n n' : Nat} (h : tagName n = tagName n') : n = n' :=
  Text.append_toString_injective h

theorem isTagName_tagName (n : Nat) : isTagName (tagName n) = true := by
  rw [isTagName, tagName, String.toList_append, List.isPrefixOf_iff_prefix]
  exact List.prefix_append _ _

theorem exists_name_of_mem_tagsFrom (h : e ∈ tagsFrom n ms) : ∃ k, n ≤ k ∧ e.1 = tagName k := by
  induction ms generalizing n with
  | nil => cases h
  | cons m ms ih =>
    rcases List.mem_cons.1 h with rfl | h
    · exact ⟨n, Nat.le_refl n, rfl⟩
    · obtain ⟨k, hk, hname⟩ := ih h
      exact ⟨k, Nat.le_of_succ_le hk, hname⟩

theorem tagsFrom_distinct (n : Nat) (ms : List Membership) :
    (tagsFrom n ms).Pairwise fun a b => a.1 ≠ b.1 := by
  induction ms generalizing n with
  | nil => exact .nil
  | cons m ms ih =>
    refine List.pairwise_cons.2 ⟨fun e he hname => ?_, ih (n + 1)⟩
    -- The names that follow have greater numbers.
    obtain ⟨k, hk, hk'⟩ := exists_name_of_mem_tagsFrom he
    have heq := tagName_injective (hname.trans hk')
    omega

theorem map_tagsFrom (n : Nat) (ms : List Membership) :
    (tagsFrom n ms).map (·.2) = ms.map tag := by
  induction ms generalizing n with
  | nil => rfl
  | cons m ms ih => exact congrArg (m.tag :: ·) (ih (n + 1))

theorem mem_tagsFrom : e ∈ tagsFrom n ms ↔
    ∃ i m, ms[i]? = some m ∧ e = (tagName (n + i), m.tag) := by
  induction ms generalizing n with
  | nil => simp [tagsFrom]
  | cons m ms ih =>
    rw [tagsFrom, List.mem_cons, ih]
    constructor
    · rintro (rfl | ⟨i, m', hm', rfl⟩)
      · exact ⟨0, m, rfl, rfl⟩
      · exact ⟨i + 1, m', hm', by rw [Nat.add_right_comm, Nat.add_assoc]⟩
    · rintro ⟨_ | i, m', hm', rfl⟩
      · cases hm'
        exact .inl rfl
      · exact .inr ⟨i, m', hm', by rw [Nat.add_right_comm, Nat.add_assoc]⟩

/-- The tags of memberships are numbered from one. -/
theorem get?_tags {name value : String} :
    (tags ms).get? name = some value ↔
      ∃ i m, ms[i]? = some m ∧ name = tagName (i + 1) ∧ value = m.tag := by
  rw [tags, Table.get?_ofList_eq_some_iff (tagsFrom_distinct 1 ms), mem_tagsFrom]
  simp only [Prod.mk.injEq, Nat.add_comm 1]

/-! ## Reading -/

section

variable {vmId name value : String} {l : List (String × String)}

theorem ofEntries_cons_none (vmId name : String) (l : List (String × String))
    (h : ofTag? value = none) :
    ofEntries vmId ((name, value) :: l) = .error (malformed vmId name value) := by
  simp only [ofEntries, h]

theorem ofEntries_cons_some (vmId name : String) (l : List (String × String))
    (h : ofTag? value = some m) :
    ofEntries vmId ((name, value) :: l) = (ofEntries vmId l).map ((name, m) :: ·) := by
  simp only [ofEntries, h]
  rfl

/-- Entries that are read all stand for memberships. -/
theorem ofEntries_cons_ok {decoded : List (String × Membership)}
    (h : ofEntries vmId ((name, value) :: l) = .ok decoded) :
    ∃ m rest, ofTag? value = some m ∧ ofEntries vmId l = .ok rest ∧
      decoded = (name, m) :: rest := by
  cases htag : ofTag? value with
  | none =>
    rw [ofEntries_cons_none vmId name l htag] at h
    cases h
  | some m =>
    rw [ofEntries_cons_some vmId name l htag] at h
    cases hrest : ofEntries vmId l with
    | error e =>
      rw [hrest] at h
      cases h
    | ok rest =>
      rw [hrest] at h
      cases h
      exact ⟨m, rest, rfl, rfl, rfl⟩

/-- An entry that stands for no membership spoils all others. -/
theorem ofEntries_malformed (vmId : String) (hmem : (name, value) ∈ l)
    (hvalue : ofTag? value = none) : ∃ reason, ofEntries vmId l = .error (.validation reason) := by
  induction l with
  | nil => cases hmem
  | cons e l ih =>
    obtain ⟨name', value'⟩ := e
    cases htag : ofTag? value' with
    | none => exact ⟨_, ofEntries_cons_none vmId name' l htag⟩
    | some m =>
      rcases List.mem_cons.1 hmem with heq | hmem
      · cases heq
        rw [hvalue] at htag
        cases htag
      · obtain ⟨reason, hreason⟩ := ih hmem
        rw [ofEntries_cons_some vmId name' l htag, hreason]
        exact ⟨reason, rfl⟩

/-- Entries that are not read have one among them that stands for no membership, and the fault
    names it. -/
theorem exists_of_ofEntries_error {e : OperationError} (h : ofEntries vmId l = .error e) :
    ∃ name value, (name, value) ∈ l ∧ ofTag? value = none ∧ e = malformed vmId name value := by
  induction l with
  | nil => cases h
  | cons entry l ih =>
    obtain ⟨name, value⟩ := entry
    cases htag : ofTag? value with
    | none =>
      rw [ofEntries_cons_none vmId name l htag] at h
      cases h
      exact ⟨name, value, List.mem_cons_self, htag, rfl⟩
    | some m =>
      rw [ofEntries_cons_some vmId name l htag] at h
      cases hrest : ofEntries vmId l with
      | ok rest =>
        rw [hrest] at h
        cases h
      | error e' =>
        rw [hrest] at h
        cases h
        obtain ⟨name', value', hmem, hvalue, heq⟩ := ih hrest
        exact ⟨name', value', List.mem_cons_of_mem _ hmem, hvalue, heq⟩

/-- Whatever entries are not read for, it is the entries that make no sense. -/
theorem validation_of_ofEntries {e : OperationError} (h : ofEntries vmId l = .error e) :
    ∃ reason, e = .validation reason := by
  obtain ⟨_, _, -, -, rfl⟩ := exists_of_ofEntries_error h
  exact ⟨_, rfl⟩

end

/-- Entries that all stand for memberships are read as these. -/
theorem ofEntries_ok (vmId : String) {l : List (String × String)}
    (h : ∀ e ∈ l, (ofTag? e.2).isSome) :
    ∃ decoded, ofEntries vmId l = .ok decoded ∧
      decoded.map (·.2) = l.filterMap fun e => ofTag? e.2 := by
  induction l with
  | nil => exact ⟨[], rfl, rfl⟩
  | cons e l ih =>
    obtain ⟨name, value⟩ := e
    obtain ⟨decoded, hdecoded, hmap⟩ := ih fun e he => h e (List.mem_cons_of_mem _ he)
    obtain ⟨m, hm⟩ := Option.isSome_iff_exists.1 (h _ List.mem_cons_self)
    refine ⟨(name, m) :: decoded, ?_, ?_⟩
    · rw [ofEntries_cons_some vmId name l hm, hdecoded]
      rfl
    · simp only [List.map_cons, hmap, List.filterMap_cons, hm]

/-- The tags in metadata that agree with those of some memberships. -/
theorem mem_filter_isTagName
    (h : ∀ name, isTagName name = true → metadata.get? name = (tags ms).get? name) :
    e ∈ metadata.entries.filter (isTagName ·.1) ↔ e ∈ tagsFrom 1 ms := by
  have htags : (tags ms).get? e.1 = some e.2 ↔ e ∈ tagsFrom 1 ms :=
    Table.get?_ofList_eq_some_iff (tagsFrom_distinct 1 ms)
  rw [List.mem_filter, Table.mem_entries]
  constructor
  · rintro ⟨hget, hname⟩
    exact htags.1 (h _ hname ▸ hget)
  · intro he
    obtain ⟨k, -, hk⟩ := exists_name_of_mem_tagsFrom he
    have hname : isTagName e.1 = true := hk ▸ isTagName_tagName k
    exact ⟨(h _ hname).trans (htags.2 he), hname⟩

/-- Memberships that can be written are read back, whatever else the metadata hold. -/
theorem ofMetadata_of_tags (hms : ∀ m ∈ ms, ofTag? m.tag = some m)
    (h : ∀ name, isTagName name = true → metadata.get? name = (tags ms).get? name)
    (vmId : String) :
    ∃ decoded, ofMetadata vmId metadata = .ok decoded ∧ ∀ m, m ∈ decoded.map (·.2) ↔ m ∈ ms := by
  -- What a tag says is the tag of one of the memberships, and each has a tag.
  have hvalue {e : String × String} (he : e ∈ tagsFrom 1 ms) : ∃ m ∈ ms, m.tag = e.2 :=
    List.mem_map.1 (map_tagsFrom 1 ms ▸ List.mem_map_of_mem he)
  have hentry {m : Membership} (hm : m ∈ ms) : ∃ e ∈ tagsFrom 1 ms, e.2 = m.tag :=
    List.mem_map.1 ((map_tagsFrom 1 ms).symm ▸ List.mem_map_of_mem hm)
  obtain ⟨decoded, hdecoded, hmap⟩ := ofEntries_ok vmId
    (l := metadata.entries.filter (isTagName ·.1)) fun e he => by
      obtain ⟨m, hm, htag⟩ := hvalue ((mem_filter_isTagName h).1 he)
      rw [← htag, hms m hm]
      rfl
  refine ⟨decoded, hdecoded, fun m => ?_⟩
  simp only [hmap, List.mem_filterMap, mem_filter_isTagName h]
  constructor
  · rintro ⟨e, he, hm⟩
    obtain ⟨m', hm', htag⟩ := hvalue he
    rw [← htag, hms m' hm'] at hm
    exact Option.some.inj hm ▸ hm'
  · intro hm
    obtain ⟨e, he, htag⟩ := hentry hm
    exact ⟨e, he, htag ▸ hms m hm⟩

end CloudProvider.Membership
