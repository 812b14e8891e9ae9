import CloudProvider.Json.Record

/-!
# Reading what was written

The readers of documents take back what was written: a number of some bits, a list, a table
and a field of a record, whenever the values in them are taken back. A record is written as an
object of distinct names, so each of its fields is found under its name, wherever it stands.

* `record?_toDocument`: the fields of an object that was written;
* `list?_toDocument`, `table?_toDocument`, `optional?_elim`: containers, from their parts.
-/

namespace CloudProvider

namespace Document

variable {α : Type} {read : Document → Option α} {write : α → Json}

/-! ## Values -/

@[simp] theorem text?_toDocument (s : String) : (Json.string s).toDocument.text? = some s := rfl

@[simp] theorem flag?_toDocument (b : Bool) : (Json.bool b).toDocument.flag? = some b := rfl

theorem natural?_toDocument {n bound : Nat} (h : n < bound) :
    (Json.nat n).toDocument.natural? bound = some n :=
  if_pos h

@[simp] theorem word16?_toDocument (n : UInt16) :
    (Json.nat n.toNat).toDocument.word16? = some n := by
  rw [word16?, natural?_toDocument n.toNat_lt, Option.map_some, UInt16.ofNat_toNat]

@[simp] theorem word32?_toDocument (n : UInt32) :
    (Json.nat n.toNat).toDocument.word32? = some n := by
  rw [word32?, natural?_toDocument n.toNat_lt, Option.map_some, UInt32.ofNat_toNat]

@[simp] theorem word64?_toDocument (n : UInt64) :
    (Json.nat n.toNat).toDocument.word64? = some n := by
  rw [word64?, natural?_toDocument n.toNat_lt, Option.map_some, UInt64.ofNat_toNat]

/-! ## Containers -/

theorem readAll?_map {β : Type} {read : β → Option α} {write : α → β} {l : List α}
    (h : ∀ a ∈ l, read (write a) = some a) : readAll? read (l.map write) = some l := by
  induction l with
  | nil => rfl
  | cons a l ih =>
    obtain ⟨ha, hl⟩ := List.forall_mem_cons.1 h
    rw [List.map_cons, readAll?, ha, ih hl]
    rfl

theorem list?_toDocument {l : List α} (h : ∀ a ∈ l, read (write a).toDocument = some a) :
    (Json.array (l.map write)).toDocument.list? read = some l := by
  rw [Json.toDocument, Json.toDocuments_eq_map, List.map_map]
  exact readAll?_map h

@[simp] theorem list?_strings (l : List String) :
    (Json.strings l).toDocument.list? text? = some l :=
  list?_toDocument fun s _ => text?_toDocument s

theorem table?_toDocument {t : Table α}
    (h : ∀ name a, t.get? name = some a → read (write a).toDocument = some a) :
    (Json.ofTable (t.map write)).toDocument.table? read = some t := by
  have hentries (e : String × α) (he : e ∈ t.entries) :
      ((read (write e.2).toDocument).map (e.1, ·)) = some e := by
    rw [h e.1 e.2 (Table.mem_entries.1 he)]
    rfl
  have hread : readAll? (fun m => (read m.2).map (m.1, ·))
      (t.entries.map fun e => (e.1, (write e.2).toDocument)) = some t.entries :=
    readAll?_map hentries
  rw [Json.ofTable, Json.toDocument, Json.toDocumentMembers_eq_map, Table.map, List.map_map]
  -- The entries are in order already, so putting them in their places changes nothing.
  exact (congrArg (Option.map Table.ofList) hread).trans (congrArg some (Table.ofList_entries t))

@[simp] theorem optional?_toDocument (s : Option String) :
    (Json.optional s).toDocument.optional? text? = some s := by
  cases s <;> rfl

/-- Absence is written as `null`, so a value is not. -/
theorem optional?_of_some {j : Json} {a : α} (h : read j.toDocument = some a)
    (hnull : read .null = none) : j.toDocument.optional? read = some (some a) := by
  rw [optional?]
  · rw [h]
    rfl
  · intro hwritten
    rw [hwritten, hnull] at h
    cases h

theorem optional?_elim {a? : Option α} (h : ∀ a, read (write a).toDocument = some a)
    (hnull : read .null = none) :
    (a?.elim Json.null write).toDocument.optional? read = some a? := by
  cases a? with
  | none => rfl
  | some a => exact optional?_of_some (h a) hnull

/-! ## Records -/

theorem lookup_toDocument (fields : List (String × Json)) (name : String) :
    (fields.map fun m => (m.1, m.2.toDocument)).lookup name =
      (fields.lookup name).map Json.toDocument := by
  induction fields with
  | nil => rfl
  | cons m fields ih =>
    obtain ⟨key, j⟩ := m
    by_cases h : name = key
    · simp [h]
    · simp [List.lookup_cons, beq_eq_false_iff_ne.2 h, ih]

theorem record?_toDocument {fields : List (String × Json)} (h : (fields.map (·.1)).Nodup)
    (names : List String) :
    (Json.object fields).toDocument.record? names =
      some fun name => (fields.lookup name).elim .omitted fun j => .given j.toDocument := by
  have honce (name : String) :
      ((fields.map fun m => (m.1, m.2.toDocument)).filter (·.1 = name)).length ≤ 1 := by
    have hcount := List.nodup_iff_count.1 h name
    rw [List.count, List.countP_map] at hcount
    rwa [← List.countP_eq_length_filter, List.countP_map]
  rw [Json.toDocument, Json.toDocumentMembers_eq_map, record?,
    if_pos (List.all_eq_true.2 fun name _ => decide_eq_true (honce name))]
  refine congrArg some (funext fun name => ?_)
  rw [lookup_toDocument]
  cases fields.lookup name <;> rfl

end Document

/-! ## Fields -/

theorem bind_eq_some {α β : Type} {x : Option α} {f : α → Option β} {a : α} {b : β}
    (h : x = some a) (hf : f a = some b) : (x >>= f) = some b :=
  Option.bind_eq_some_iff.2 ⟨a, h, hf⟩

namespace Slot

variable {α : Type} {read : Document → Option α}

@[simp] theorem required_given (d : Document) : (given d).required read = read d := rfl

@[simp] theorem optional_given (d : Document) : (given d).optional read = d.optional? read := rfl

@[simp] theorem optional_omitted : omitted.optional read = some none := rfl

@[simp] theorem defaulted_given (default : α) (d : Document) :
    (given d).defaulted default read = read d := rfl

/-- A field that has to be there was read from some document. -/
theorem exists_of_required {slot : Slot} {a : α} (h : slot.required read = some a) :
    ∃ d, read d = some a := by
  cases slot with
  | given d => exact ⟨d, h⟩
  | omitted | exhausted => cases h

/-- So was one that has a default, unless it is the default. -/
theorem eq_or_exists_of_defaulted {slot : Slot} {default a : α}
    (h : slot.defaulted default read = some a) : a = default ∨ ∃ d, read d = some a := by
  cases slot with
  | given d => exact .inr ⟨d, h⟩
  | omitted | exhausted => exact .inl (Option.some.inj h).symm

end Slot

end CloudProvider
