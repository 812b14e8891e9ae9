/-!
# Tables

A *table* is a finite map from names to values, kept as a list of entries in
strictly ascending order of the names. The order makes a table its own normal
form, so two tables with the same look-ups are equal (`Table.ext`), and "exactly
what it was before" can be said with `=`.

* `get?_insert`, `get?_erase`: what an update does to a look-up;
* `Table.ext`: a table is determined by its look-ups;
* `get?_map`, `get?_filterMap`: look-ups in a table built entry by entry.
-/

namespace CloudProvider

/-- A finite map from names to values, in ascending order of the names. -/
structure Table (α : Type) where
  entries : List (String × α)
  sorted : entries.Pairwise fun a b => a.1 < b.1
  deriving DecidableEq

namespace Table

variable {α β : Type}

/-! ## Ordered lists of entries -/

/-- Put an entry in its place, in the stead of one of the same name. -/
def insertEntry (name : String) (value : α) : List (String × α) → List (String × α)
  | [] => [(name, value)]
  | e :: rest =>
    if name < e.1 then (name, value) :: e :: rest
    else if name = e.1 then (name, value) :: rest
    else e :: insertEntry name value rest

/-- The first entry decides about its own name and no other. -/
theorem lookup_entry_cons (key : String) (e : String × α) (l : List (String × α)) :
    (e :: l).lookup key = if key = e.1 then some e.2 else l.lookup key := by
  obtain ⟨name, value⟩ := e
  by_cases h : key = name
  · simp [h]
  · simp [List.lookup_cons, h, beq_eq_false_iff_ne.2 h]

theorem mem_insertEntry {name : String} {value : α} {l : List (String × α)} {e : String × α}
    (h : e ∈ insertEntry name value l) : e = (name, value) ∨ e ∈ l := by
  induction l with
  | nil => simpa [insertEntry] using h
  | cons a l ih =>
    simp only [insertEntry] at h
    split at h
    · simpa using h
    · split at h
      · rcases List.mem_cons.1 h with h | h
        · exact .inl h
        · exact .inr (List.mem_cons_of_mem _ h)
      · rcases List.mem_cons.1 h with h | h
        · exact .inr (h ▸ List.mem_cons_self)
        · exact (ih h).imp_right (List.mem_cons_of_mem _)

/-- Of two names neither of which comes first, each is the other. -/
theorem eq_of_not_lt {a b : String} (h : ¬ a < b) (h' : ¬ b < a) : a = b :=
  String.le_antisymm (String.not_lt.1 h') (String.not_lt.1 h)

theorem sorted_insertEntry (name : String) (value : α) {l : List (String × α)}
    (h : l.Pairwise fun a b => a.1 < b.1) :
    (insertEntry name value l).Pairwise fun a b => a.1 < b.1 := by
  induction l with
  | nil => simp [insertEntry]
  | cons a l ih =>
    obtain ⟨ha, hl⟩ := List.pairwise_cons.1 h
    simp only [insertEntry]
    split
    · rename_i hlt
      refine List.pairwise_cons.2 ⟨fun b hb => ?_, h⟩
      rcases List.mem_cons.1 hb with rfl | hb
      · exact hlt
      · exact String.lt_trans hlt (ha b hb)
    · split
      · rename_i heq
        exact List.pairwise_cons.2 ⟨fun b hb => heq ▸ ha b hb, hl⟩
      · rename_i hlt hne
        refine List.pairwise_cons.2 ⟨fun b hb => ?_, ih hl⟩
        rcases mem_insertEntry hb with rfl | hb
        · exact Decidable.byContradiction fun hgt => hne (eq_of_not_lt hlt hgt)
        · exact ha b hb

theorem lookup_insertEntry (name key : String) (value : α) {l : List (String × α)}
    (h : l.Pairwise fun a b => a.1 < b.1) :
    (insertEntry name value l).lookup key = if key = name then some value else l.lookup key := by
  induction l with
  | nil => simp [insertEntry, lookup_entry_cons]
  | cons a l ih =>
    obtain ⟨ha, hl⟩ := List.pairwise_cons.1 h
    obtain ⟨n, v⟩ := a
    simp only [insertEntry]
    split
    · by_cases hk : key = name <;> simp [lookup_entry_cons, hk]
    · split
      · rename_i hne heq
        subst heq
        by_cases hk : key = name <;> simp [lookup_entry_cons, hk]
      · rename_i hlt hne
        by_cases hn : key = n
        · have hk : key ≠ name := fun hk => hne (hk ▸ hn)
          subst hn
          simp [hk]
        · simp [lookup_entry_cons, hn, ih hl]

/-- A name before every entry of a list is not among them. -/
theorem lookup_eq_none_of_lt {key : String} {l : List (String × α)}
    (h : ∀ e ∈ l, key < e.1) : l.lookup key = none := by
  induction l with
  | nil => rfl
  | cons a l ih =>
    obtain ⟨n, v⟩ := a
    have hn : key ≠ n := fun hk => String.lt_irrefl key (by simpa [← hk] using h (n, v) (by simp))
    simp [lookup_entry_cons, hn, ih fun e he => h e (List.mem_cons_of_mem _ he)]

theorem lookup_eq_some_of_mem {key : String} {value : α} {l : List (String × α)}
    (h : l.Pairwise fun a b => a.1 ≠ b.1) (hm : (key, value) ∈ l) :
    l.lookup key = some value := by
  induction l with
  | nil => simp at hm
  | cons a l ih =>
    obtain ⟨ha, hl⟩ := List.pairwise_cons.1 h
    obtain ⟨n, v⟩ := a
    rcases List.mem_cons.1 hm with he | hm
    · obtain ⟨rfl, rfl⟩ := Prod.mk.inj he
      simp
    · have hn : key ≠ n := fun hk => ha _ hm hk.symm
      simp [lookup_entry_cons, hn, ih hl hm]

theorem mem_of_lookup_eq_some {key : String} {value : α} {l : List (String × α)}
    (h : l.lookup key = some value) : (key, value) ∈ l := by
  induction l with
  | nil => simp at h
  | cons a l ih =>
    obtain ⟨n, v⟩ := a
    by_cases hn : key = n
    · subst hn
      simp_all
    · simp [lookup_entry_cons, hn] at h
      exact List.mem_cons_of_mem _ (ih h)

/-- Where names are distinct, an entry is found wherever it stands. -/
theorem lookup_eq_some_iff_mem {key : String} {value : α} {l : List (String × α)}
    (h : l.Pairwise fun a b => a.1 ≠ b.1) : l.lookup key = some value ↔ (key, value) ∈ l :=
  ⟨mem_of_lookup_eq_some, lookup_eq_some_of_mem h⟩

theorem eq_of_lookup {l l' : List (String × α)} (h : l.Pairwise fun a b => a.1 < b.1)
    (h' : l'.Pairwise fun a b => a.1 < b.1) (heq : ∀ key, l.lookup key = l'.lookup key) :
    l = l' := by
  induction l generalizing l' with
  | nil =>
    cases l' with
    | nil => rfl
    | cons b l' => simpa [lookup_entry_cons] using heq b.1
  | cons a l ih =>
    cases l' with
    | nil => simpa [lookup_entry_cons] using heq a.1
    | cons b l' =>
      obtain ⟨ha, hl⟩ := List.pairwise_cons.1 h
      obtain ⟨hb, hl'⟩ := List.pairwise_cons.1 h'
      obtain ⟨n, v⟩ := a
      obtain ⟨n', v'⟩ := b
      -- If one list began before the other, its first name would be missing there.
      have hle : ¬ n < n' := fun hlt => by
        have : ((n', v') :: l').lookup n = none := lookup_eq_none_of_lt fun e he => by
          rcases List.mem_cons.1 he with rfl | he
          · exact hlt
          · exact String.lt_trans hlt (hb e he)
        simp [← heq] at this
      have hge : ¬ n' < n := fun hlt => by
        have : ((n, v) :: l).lookup n' = none := lookup_eq_none_of_lt fun e he => by
          rcases List.mem_cons.1 he with rfl | he
          · exact hlt
          · exact String.lt_trans hlt (ha e he)
        simp [heq] at this
      obtain rfl := eq_of_not_lt hle hge
      have hv : v = v' := by simpa using heq n
      subst hv
      congr 1
      -- The rests agree too: the first name is in neither of them.
      refine ih hl hl' fun key => ?_
      by_cases hk : key = n
      · subst hk
        rw [lookup_eq_none_of_lt ha, lookup_eq_none_of_lt hb]
      · simpa [lookup_entry_cons, hk] using heq key

/-! ## Operations -/

/-- The table without entries. -/
def empty : Table α := ⟨[], .nil⟩

instance : EmptyCollection (Table α) := ⟨empty⟩

instance : Inhabited (Table α) := ⟨empty⟩

/-- The value under a name. -/
def get? (t : Table α) (name : String) : Option α := t.entries.lookup name

/-- Whether a name has a value. -/
def contains (t : Table α) (name : String) : Bool := (t.get? name).isSome

/-- The names, in ascending order. -/
def keys (t : Table α) : List String := t.entries.map (·.1)

/-- The values, in ascending order of their names. -/
def values (t : Table α) : List α := t.entries.map (·.2)

/-- Whether there is no entry. -/
def isEmpty (t : Table α) : Bool := t.entries.isEmpty

/-- The number of entries. -/
def size (t : Table α) : Nat := t.entries.length

/-- Give a name a value, in the stead of the one it had. -/
def insert (t : Table α) (name : String) (value : α) : Table α :=
  ⟨insertEntry name value t.entries, sorted_insertEntry name value t.sorted⟩

/-- Take a name out of the table. -/
def erase (t : Table α) (name : String) : Table α :=
  ⟨t.entries.filter (·.1 ≠ name), t.sorted.filter _⟩

/-- Take some names out of the table. -/
def eraseAll (t : Table α) (names : List String) : Table α := names.foldl erase t

/-- Insert some values under their own names. -/
def insertAll (key : α → String) (t : Table α) (values : List α) : Table α :=
  values.foldl (fun t a => t.insert (key a) a) t

/-- The table of a list of entries, the last entry of a name being the one that counts. -/
def ofList (l : List (String × α)) : Table α :=
  l.foldl (fun t e => t.insert e.1 e.2) empty

/-- All entries of both tables, those of `u` where both have one. -/
def union (t u : Table α) : Table α :=
  u.entries.foldl (fun t e => t.insert e.1 e.2) t

/-- Change every value. -/
def map (f : α → β) (t : Table α) : Table β :=
  ⟨t.entries.map fun e => (e.1, f e.2), t.sorted.map _ fun _ _ h => h⟩

/-- Change or drop every value, given its name. -/
def filterMap (f : String → α → Option β) (t : Table α) : Table β :=
  ⟨t.entries.filterMap fun e => (f e.1 e.2).map (e.1, ·),
    t.sorted.filterMap _ fun a b h a' ha b' hb => by
      obtain ⟨_, _, rfl⟩ := Option.map_eq_some_iff.1 ha
      obtain ⟨_, _, rfl⟩ := Option.map_eq_some_iff.1 hb
      exact h⟩

/-- Change the value under a name, if it has one. -/
def modify (t : Table α) (name : String) (f : α → α) : Table α :=
  match t.get? name with
  | some value => t.insert name (f value)
  | none => t

/-- What became of every name whose value differs between two tables: its new
    value, or nothing when it is gone. -/
def changes [DecidableEq α] (before after : Table α) : Table (Option α) :=
  let gone := before.filterMap fun name _ =>
    if after.contains name then none else some none
  let set := after.filterMap fun name value =>
    if before.get? name = some value then none else some (some value)
  gone.union set

/-! ## Look-ups -/

/-- A table is determined by its look-ups. -/
@[ext] theorem ext {t u : Table α} (h : ∀ name, t.get? name = u.get? name) : t = u := by
  obtain ⟨l, hl⟩ := t
  obtain ⟨l', hl'⟩ := u
  obtain rfl : l = l' := eq_of_lookup hl hl' h
  rfl

@[simp] theorem get?_empty (name : String) : (∅ : Table α).get? name = none := rfl

theorem get?_insert (t : Table α) (name key : String) (value : α) :
    (t.insert name value).get? key = if key = name then some value else t.get? key :=
  lookup_insertEntry name key value t.sorted

theorem contains_of_some {t : Table α} {name : String} {value : α}
    (h : t.get? name = some value) : t.contains name = true := by
  rw [contains, h]
  rfl

theorem contains_of_none {t : Table α} {name : String} (h : t.get? name = none) :
    t.contains name = false := by
  rw [contains, h]
  rfl

theorem contains_insert (t : Table α) (name key : String) (value : α) :
    (t.insert name value).contains key = (decide (key = name) || t.contains key) := by
  rw [contains, get?_insert]
  by_cases h : key = name <;> simp [h, contains]

@[simp] theorem get?_insert_self (t : Table α) (name : String) (value : α) :
    (t.insert name value).get? name = some value := by simp [get?_insert]

theorem get?_insert_of_ne (t : Table α) {name key : String} (value : α) (h : key ≠ name) :
    (t.insert name value).get? key = t.get? key := by simp [get?_insert, h]

theorem get?_erase (t : Table α) (name key : String) :
    (t.erase name).get? key = if key = name then none else t.get? key := by
  obtain ⟨l, hl⟩ := t
  simp only [get?, erase]
  clear hl
  induction l with
  | nil => simp
  | cons a l ih =>
    obtain ⟨n, v⟩ := a
    rw [List.filter_cons, lookup_entry_cons]
    by_cases hn : n = name
    · by_cases hk : key = name
      · simpa [hn, hk] using ih
      · simpa [hn, hk] using ih
    · by_cases hk : key = n
      · simp [hn, hk]
      · simpa [hn, lookup_entry_cons, hk] using ih

@[simp] theorem get?_erase_self (t : Table α) (name : String) :
    (t.erase name).get? name = none := by simp [get?_erase]

theorem get?_erase_of_ne (t : Table α) {name key : String} (h : key ≠ name) :
    (t.erase name).get? key = t.get? key := by simp [get?_erase, h]

theorem erase_eq_self {t : Table α} {name : String} (h : t.get? name = none) :
    t.erase name = t := by
  ext key : 1
  rw [get?_erase]
  by_cases hk : key = name
  · rw [if_pos hk, hk, h]
  · rw [if_neg hk]

/-- A new entry that goes again. -/
theorem erase_insert (t : Table α) {name : String} (value : α) (h : t.get? name = none) :
    (t.insert name value).erase name = t := by
  ext key : 1
  rw [get?_erase]
  by_cases hk : key = name
  · rw [if_pos hk, hk, h]
  · rw [if_neg hk, get?_insert_of_ne _ _ hk]

/-- Of two values for a name the later one counts. -/
theorem insert_insert (t : Table α) (name : String) (value value' : α) :
    (t.insert name value).insert name value' = t.insert name value' := by
  ext key : 1
  by_cases hk : key = name
  · rw [hk, get?_insert_self, get?_insert_self]
  · rw [get?_insert_of_ne _ _ hk, get?_insert_of_ne _ _ hk, get?_insert_of_ne _ _ hk]

theorem insert_eq_self {t : Table α} {name : String} {value : α}
    (h : t.get? name = some value) : t.insert name value = t := by
  ext key : 1
  by_cases hk : key = name
  · rw [hk, get?_insert_self, h]
  · rw [get?_insert_of_ne _ _ hk]

@[simp] theorem eraseAll_nil (t : Table α) : t.eraseAll [] = t := rfl

@[simp] theorem eraseAll_singleton (t : Table α) (name : String) :
    t.eraseAll [name] = t.erase name := rfl

theorem get?_eraseAll (t : Table α) (names : List String) (key : String) :
    (t.eraseAll names).get? key = if key ∈ names then none else t.get? key := by
  induction names generalizing t with
  | nil => simp [eraseAll]
  | cons name names ih =>
    rw [eraseAll, List.foldl_cons, ← eraseAll, ih, get?_erase]
    by_cases hk : key = name <;> simp [hk]

/-- Which names are taken out matters, not how often or in which order. -/
theorem eraseAll_congr (t : Table α) {names names' : List String}
    (h : ∀ name, name ∈ names ↔ name ∈ names') : t.eraseAll names = t.eraseAll names' := by
  ext key : 1
  simp only [get?_eraseAll, h]

/-- Tables that agree once some names are gone agree once more are gone. -/
theorem eraseAll_congr_of_subset {t u : Table α} {few all : List String} (hsub : few ⊆ all)
    (h : t.eraseAll few = u.eraseAll all) : t.eraseAll all = u.eraseAll all := by
  ext key : 1
  rw [get?_eraseAll]
  by_cases hk : key ∈ all
  · rw [if_pos hk, get?_eraseAll, if_pos hk]
  · rw [if_neg hk, ← h, get?_eraseAll, if_neg fun hmem => hk (hsub hmem)]

/-- A name that goes may have been given a value before. -/
theorem eraseAll_insert_of_mem (t : Table α) {name : String} {names : List String} (value : α)
    (h : name ∈ names) : (t.insert name value).eraseAll names = t.eraseAll names := by
  ext key : 1
  rw [get?_eraseAll, get?_eraseAll]
  by_cases hk : key = name
  · rw [hk, if_pos h, if_pos h]
  · rw [get?_insert_of_ne _ _ hk]

/-- A new entry that goes with the others. -/
theorem eraseAll_insert_append (t : Table α) {name : String} {names : List String} (value : α)
    (h : (t.eraseAll names).get? name = none) :
    (t.insert name value).eraseAll (names ++ [name]) = t.eraseAll names := by
  ext key : 1
  rw [get?_eraseAll]
  by_cases hk : key = name
  · rw [hk, if_pos (by simp), h]
  · rw [get?_eraseAll, get?_insert_of_ne _ _ hk]
    simp [hk]

theorem get?_map (f : α → β) (t : Table α) (key : String) :
    (t.map f).get? key = (t.get? key).map f := by
  obtain ⟨l, hl⟩ := t
  simp only [get?, map]
  clear hl
  induction l with
  | nil => rfl
  | cons a l ih =>
    by_cases hk : key = a.1 <;> simp [lookup_entry_cons, hk, ih]

theorem contains_map (f : α → β) (t : Table α) (key : String) :
    (t.map f).contains key = t.contains key := by
  rw [contains, contains, get?_map, Option.isSome_map]

theorem map_insert (f : α → β) (t : Table α) (name : String) (value : α) :
    (t.insert name value).map f = (t.map f).insert name (f value) := by
  ext key : 1
  rw [get?_map, get?_insert, get?_insert, get?_map]
  by_cases hk : key = name <;> simp [hk]

theorem map_erase (f : α → β) (t : Table α) (name : String) :
    (t.erase name).map f = (t.map f).erase name := by
  ext key : 1
  rw [get?_map, get?_erase, get?_erase, get?_map]
  by_cases hk : key = name <;> simp [hk]

theorem map_map {γ : Type} (g : β → γ) (f : α → β) (t : Table α) :
    (t.map f).map g = t.map (g ∘ f) := by
  ext key : 1
  rw [get?_map, get?_map, get?_map, Option.map_map]

theorem map_congr {f g : α → β} {t : Table α} (h : ∀ key a, t.get? key = some a → f a = g a) :
    t.map f = t.map g := by
  ext key : 1
  rw [get?_map, get?_map]
  cases hkey : t.get? key with
  | none => rfl
  | some a => exact congrArg some (h key a hkey)

theorem map_eq_self {f : α → α} {t : Table α} (h : ∀ key a, t.get? key = some a → f a = a) :
    t.map f = t := by
  rw [map_congr (g := id) h]
  ext key : 1
  rw [get?_map, Option.map_id_apply]

/-- No two entries have the same name. -/
theorem distinct (t : Table α) : t.entries.Pairwise fun a b => a.1 ≠ b.1 :=
  t.sorted.imp fun {a b} hlt (heq : a.1 = b.1) => String.lt_irrefl b.1 (heq ▸ hlt)

theorem mem_entries {t : Table α} {name : String} {value : α} :
    (name, value) ∈ t.entries ↔ t.get? name = some value :=
  (lookup_eq_some_iff_mem t.distinct).symm

/-- A table with one entry has no other value. -/
theorem eq_of_get?_singleton {t : Table α} {name key : String} {value value' : α}
    (h : t.get? key = some value') (ht : t.entries = [(name, value)]) : value' = value := by
  have hentry : (key, value') ∈ [(name, value)] := ht ▸ mem_entries.2 h
  exact (Prod.mk.inj (List.mem_singleton.1 hentry)).2

theorem get?_filterMap (f : String → α → Option β) (t : Table α) (key : String) :
    (t.filterMap f).get? key = (t.get? key).bind (f key) := by
  refine Option.ext fun b => ?_
  rw [← mem_entries]
  simp only [filterMap, List.mem_filterMap, Option.map_eq_some_iff, Prod.mk.injEq,
    Option.bind_eq_some_iff]
  constructor
  · rintro ⟨⟨n, v⟩, hm, b', hb, rfl, rfl⟩
    exact ⟨v, mem_entries.1 hm, hb⟩
  · rintro ⟨v, hv, hb⟩
    exact ⟨(key, v), mem_entries.2 hv, b, hb, rfl, rfl⟩

/-- Look-ups after a list of entries has been inserted in turn. -/
theorem get?_foldl_insert (l : List (String × α)) (t : Table α) (key : String) :
    (l.foldl (fun t e => t.insert e.1 e.2) t).get? key =
      (l.reverse.lookup key).or (t.get? key) := by
  induction l generalizing t with
  | nil => simp
  | cons a l ih =>
    rw [List.foldl_cons, ih, List.reverse_cons, get?_insert]
    clear ih
    induction l.reverse with
    | nil => by_cases hk : key = a.1 <;> simp [lookup_entry_cons, hk]
    | cons b r ih => by_cases hk : key = b.1 <;> simp [lookup_entry_cons, hk, ih]

theorem get?_ofList (l : List (String × α)) (key : String) :
    (ofList l).get? key = l.reverse.lookup key := by
  have h := get?_foldl_insert l (empty : Table α) key
  simpa [ofList, get?, empty] using h

/-- Where names are distinct, the order of the entries does not matter. -/
theorem lookup_reverse {l : List (String × α)} (h : l.Pairwise fun a b => a.1 ≠ b.1)
    (key : String) : l.reverse.lookup key = l.lookup key := by
  refine Option.ext fun value => ?_
  rw [lookup_eq_some_iff_mem (List.pairwise_reverse.2 (h.imp Ne.symm)), List.mem_reverse,
    lookup_eq_some_iff_mem h]

/-- The table of a list of distinct names has just the entries of the list. -/
theorem get?_ofList_eq_some_iff {l : List (String × α)} (h : l.Pairwise fun a b => a.1 ≠ b.1)
    {key : String} {value : α} : (ofList l).get? key = some value ↔ (key, value) ∈ l := by
  rw [get?_ofList, lookup_reverse h, lookup_eq_some_iff_mem h]

theorem get?_union (t u : Table α) (key : String) :
    (t.union u).get? key = (u.get? key).or (t.get? key) := by
  rw [union, get?_foldl_insert, lookup_reverse u.distinct]
  rfl

theorem empty_union (u : Table α) : (∅ : Table α).union u = u := by
  ext key : 1
  rw [get?_union, get?_empty, Option.or_none]

theorem get?_insertAll (key : α → String) (t : Table α) (values : List α) (name : String) :
    (t.insertAll key values).get? name =
      ((values.map fun a => (key a, a)).reverse.lookup name).or (t.get? name) := by
  rw [← get?_foldl_insert, List.foldl_map]
  rfl

theorem get?_insertAll_of_mem {key : α → String} (t : Table α) {values : List α}
    (hkeys : (values.map key).Nodup) {a : α} (ha : a ∈ values) :
    (t.insertAll key values).get? (key a) = some a := by
  have hdistinct : (values.map fun a => (key a, a)).Pairwise fun a b => a.1 ≠ b.1 :=
    List.pairwise_map.2 (List.pairwise_map.1 hkeys)
  have hlookup := (lookup_eq_some_iff_mem hdistinct).2 (List.mem_map_of_mem ha)
  rw [get?_insertAll, lookup_reverse hdistinct, hlookup, Option.some_or]

theorem get?_insertAll_of_notMem {key : α → String} (t : Table α) {values : List α}
    {name : String} (h : name ∉ values.map key) :
    (t.insertAll key values).get? name = t.get? name := by
  have hlookup : (values.map fun a => (key a, a)).reverse.lookup name = none := by
    refine List.lookup_eq_none_iff.2 fun e he => bne_iff_ne.2 fun hname => h ?_
    obtain ⟨a, ha, rfl⟩ := List.mem_map.1 (List.mem_reverse.1 he)
    exact hname ▸ List.mem_map_of_mem ha
  rw [get?_insertAll, hlookup, Option.none_or]

/-- Values under new names can be taken out again. -/
theorem eraseAll_insertAll {key : α → String} {t : Table α} {values : List α}
    (h : ∀ name ∈ values.map key, t.get? name = none) :
    (t.insertAll key values).eraseAll (values.map key) = t := by
  ext name : 1
  rw [get?_eraseAll]
  split
  · rename_i hname
    exact (h name hname).symm
  · rename_i hname
    exact get?_insertAll_of_notMem t hname

theorem ofList_entries (t : Table α) : ofList t.entries = t := by
  ext key : 1
  rw [get?_ofList, lookup_reverse t.distinct]
  rfl

/-- Entries that are in order already are the entries of their table. -/
theorem entries_ofList {l : List (String × α)} (h : l.Pairwise fun a b => a.1 < b.1) :
    (ofList l).entries = l :=
  congrArg entries (ofList_entries ⟨l, h⟩)

theorem mem_of_mem_entries_ofList {l : List (String × α)} {e : String × α}
    (h : e ∈ (ofList l).entries) : e ∈ l := by
  have := get?_ofList l e.1
  rw [show (ofList l).get? e.1 = some e.2 from mem_entries.1 h] at this
  exact List.mem_reverse.1 (mem_of_lookup_eq_some this.symm)

theorem get?_modify (t : Table α) (name key : String) (f : α → α) :
    (t.modify name f).get? key = if key = name then (t.get? key).map f else t.get? key := by
  unfold modify
  split
  · rename_i v hv
    by_cases hk : key = name <;> simp [get?_insert, hk, hv]
  · rename_i hv
    by_cases hk : key = name <;> simp [hk, hv]

end Table

end CloudProvider
