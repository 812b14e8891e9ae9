import CloudProvider.Json.Basic

/-!
# JSON documents

A *document* is a JSON text as it was written: an object keeps its members in the
order of the text, a name as often as it was given. Some of it may be
*unreadable*: a text with half a surrogate pair in it, a number beyond the
doubles, a container nested too deep. That does no harm as long as the part is
passed over; whoever looks into it is refused.

* `Document.toJson?`: the value of a document all of which is readable, the last
  member of a name being the one that counts;
* `Json.toDocument`: a value as a document;
* `toJson?_toDocument`: a canonical value is the value of its document;
* `canonical_of_toJson?`: the value of a document is canonical.
-/

namespace CloudProvider

/-- A JSON text, without its blanks. -/
inductive Document where
  | null
  | bool (value : Bool)
  | number (value : Number)
  | string (value : String)
  | array (items : List Document)
  | object (members : List (String × Document))
  | unreadable
  deriving Inhabited

namespace Document

mutual

/-- The value of a document, if all of it is readable. -/
def toJson? : Document → Option Json
  | .null => some .null
  | .bool b => some (.bool b)
  | .number n => some (.number n)
  | .string s => some (.string s)
  | .array items => (toItems? items).map .array
  | .object members => (toMembers? members).map fun l => .object (Table.ofList l).entries
  | .unreadable => none

/-- The values of a list of documents. -/
def toItems? : List Document → Option (List Json)
  | [] => some []
  | d :: rest =>
    match toJson? d, toItems? rest with
    | some j, some l => some (j :: l)
    | _, _ => none

/-- The values of a list of members. -/
def toMembers? : List (String × Document) → Option (List (String × Json))
  | [] => some []
  | (name, d) :: rest =>
    match toJson? d, toMembers? rest with
    | some j, some l => some ((name, j) :: l)
    | _, _ => none

end

end Document

namespace Json

mutual

/-- A value as a document. -/
def toDocument : Json → Document
  | .null => .null
  | .bool b => .bool b
  | .number n => .number n
  | .string s => .string s
  | .array items => .array (toDocuments items)
  | .object members => .object (toDocumentMembers members)

/-- Values as documents. -/
def toDocuments : List Json → List Document
  | [] => []
  | j :: rest => toDocument j :: toDocuments rest

/-- Members as members of a document. -/
def toDocumentMembers : List (String × Json) → List (String × Document)
  | [] => []
  | (name, j) :: rest => (name, toDocument j) :: toDocumentMembers rest

end

theorem toDocuments_eq_map (l : List Json) : toDocuments l = l.map toDocument := by
  induction l with
  | nil => rfl
  | cons j l ih => rw [toDocuments, ih, List.map_cons]

theorem toDocumentMembers_eq_map (l : List (String × Json)) :
    toDocumentMembers l = l.map fun m => (m.1, m.2.toDocument) := by
  induction l with
  | nil => rfl
  | cons m l ih => rw [toDocumentMembers, ih, List.map_cons]

mutual

theorem toJson?_toDocument (j : Json) (h : j.Canonical) : j.toDocument.toJson? = some j := by
  match j, h with
  | .null, _ => rfl
  | .bool _, _ => rfl
  | .number _, _ => rfl
  | .string _, _ => rfl
  | .array items, h =>
    rw [toDocument, Document.toJson?, toItems?_toDocuments items h]
    rfl
  | .object members, h =>
    rw [toDocument, Document.toJson?, toMembers?_toDocumentMembers members h.2]
    simp only [Option.map_some, Table.entries_ofList h.1]

theorem toItems?_toDocuments (l : List Json) (h : CanonicalItems l) :
    Document.toItems? (toDocuments l) = some l := by
  match l, h with
  | [], _ => rfl
  | j :: l, h =>
    rw [toDocuments, Document.toItems?, toJson?_toDocument j h.1, toItems?_toDocuments l h.2]

theorem toMembers?_toDocumentMembers (l : List (String × Json)) (h : CanonicalMembers l) :
    Document.toMembers? (toDocumentMembers l) = some l := by
  match l, h with
  | [], _ => rfl
  | (_, j) :: l, h =>
    rw [toDocumentMembers, Document.toMembers?, toJson?_toDocument j h.1,
      toMembers?_toDocumentMembers l h.2]

end

end Json

namespace Document

theorem canonicalMembers_iff (l : List (String × Json)) :
    Json.CanonicalMembers l ↔ ∀ m ∈ l, m.2.Canonical := by
  induction l with
  | nil => simp [Json.CanonicalMembers]
  | cons m l ih => simp [Json.CanonicalMembers, ih]

mutual

theorem canonical_of_toJson? (d : Document) (j : Json) (h : d.toJson? = some j) :
    j.Canonical := by
  match d, h with
  | .null, h => cases h; trivial
  | .bool _, h => cases h; trivial
  | .number _, h => cases h; trivial
  | .string _, h => cases h; trivial
  | .unreadable, h => cases h
  | .array items, h =>
    obtain ⟨l, hl, rfl⟩ := Option.map_eq_some_iff.1 h
    exact canonicalItems_of_toItems? items l hl
  | .object members, h =>
    obtain ⟨l, hl, rfl⟩ := Option.map_eq_some_iff.1 h
    have hm := (canonicalMembers_iff l).1 (canonicalMembers_of_toMembers? members l hl)
    refine ⟨(Table.ofList l).sorted, (canonicalMembers_iff _).2 fun m hmem => ?_⟩
    exact hm m (Table.mem_of_mem_entries_ofList hmem)

theorem canonicalItems_of_toItems? (l : List Document) (r : List Json)
    (h : toItems? l = some r) : Json.CanonicalItems r := by
  match l, h with
  | [], h => cases h; trivial
  | d :: l, h =>
    rw [toItems?] at h
    split at h
    · rename_i j t hj ht
      cases h
      exact ⟨canonical_of_toJson? d j hj, canonicalItems_of_toItems? l t ht⟩
    · cases h

theorem canonicalMembers_of_toMembers? (l : List (String × Document)) (r : List (String × Json))
    (h : toMembers? l = some r) : Json.CanonicalMembers r := by
  match l, h with
  | [], h => cases h; trivial
  | (_, d) :: l, h =>
    rw [toMembers?] at h
    split at h
    · rename_i j t hj ht
      cases h
      exact ⟨canonical_of_toJson? d j hj, canonicalMembers_of_toMembers? l t ht⟩
    · cases h

end

end Document

end CloudProvider
