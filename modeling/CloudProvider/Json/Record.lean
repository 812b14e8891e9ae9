import CloudProvider.Json.Document

/-!
# Reading documents

Readers for the parts that records are made of. A record is written as an object,
whose members may stand in any order and among others that nobody reads, or as an
array of its fields in their order. A field is *required*, or *optional* (then
`null` stands for its absence), or *defaulted* (then only a field left out takes
the default, not a `null`).

* `Document.record?`: the fields of a record; none may be given twice;
* `Slot.required`, `Slot.optional`, `Slot.defaulted`: the value of a field.
-/

namespace CloudProvider

/-- What a document gives for a field of a record. -/
inductive Slot where
  | given (document : Document)
  /-- The object has no member of this name. -/
  | omitted
  /-- The array ends before this field. -/
  | exhausted

namespace Document

/-- A text. -/
def text? : Document → Option String
  | .string s => some s
  | _ => none

/-- A truth value. -/
def flag? : Document → Option Bool
  | .bool b => some b
  | _ => none

/-- A natural number below a bound. -/
def natural? (bound : Nat) : Document → Option Nat
  | .number (.integer (.ofNat n)) => if n < bound then some n else none
  | _ => none

/-- A number of 16 bits. -/
def word16? (d : Document) : Option UInt16 := (d.natural? UInt16.size).map .ofNat

/-- A number of 32 bits. -/
def word32? (d : Document) : Option UInt32 := (d.natural? UInt32.size).map .ofNat

/-- A number of 64 bits. -/
def word64? (d : Document) : Option UInt64 := (d.natural? UInt64.size).map .ofNat

/-- The results of reading each item of a list. -/
def readAll? {α β : Type} (read : α → Option β) : List α → Option (List β)
  | [] => some []
  | a :: rest => do return (← read a) :: (← readAll? read rest)

/-- An array of values of one kind. -/
def list? {α : Type} (read : Document → Option α) : Document → Option (List α)
  | .array items => readAll? read items
  | _ => none

/-- An object with values of one kind, the last member of a name being the one
    that counts. -/
def table? {α : Type} (read : Document → Option α) : Document → Option (Table α)
  | .object members =>
    (readAll? (fun m => (read m.2).map (m.1, ·)) members).map Table.ofList
  | _ => none

/-- A value, or `null` for its absence. -/
def optional? {α : Type} (read : Document → Option α) : Document → Option (Option α)
  | .null => some none
  | d => (read d).map some

/-- One of several names, alone or as the one member of an object of `null`. -/
def choice? {α : Type} (options : List (String × α)) : Document → Option α
  | .string s => options.lookup s
  | .object [(s, .null)] => options.lookup s
  | _ => none

/-- The fields of a record with the given field names. -/
def record? (names : List String) : Document → Option (String → Slot)
  | .object members =>
    -- Names that belong to no field may come as often as they like.
    if names.all fun n => (members.filter (·.1 = n)).length ≤ 1 then
      some fun n => (members.lookup n).elim .omitted .given
    else none
  | .array items =>
    if items.length ≤ names.length then
      some fun n => ((names.zip items).lookup n).elim .exhausted .given
    else none
  | _ => none

end Document

namespace Slot

variable {α : Type}

/-- The value of a field that has to be there. -/
def required (read : Document → Option α) : Slot → Option α
  | .given d => read d
  | _ => none

/-- The value of a field that may be absent; only an object may leave it out. -/
def optional (read : Document → Option α) : Slot → Option (Option α)
  | .given d => d.optional? read
  | .omitted => some none
  | .exhausted => none

/-- The value of a field that has a default. -/
def defaulted (default : α) (read : Document → Option α) : Slot → Option α
  | .given d => read d
  | _ => some default

end Slot

end CloudProvider
