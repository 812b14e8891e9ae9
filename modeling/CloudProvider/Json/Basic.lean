import CloudProvider.Decimal.Binary64
import CloudProvider.Table

/-!
# JSON values

A JSON value is what remains of a JSON text once its layout is forgotten. An
object keeps its members in ascending order of their names, each name once; a
value in which every object does so is *canonical*, and two canonical values are
the same JSON value when they are equal.

* `Json.Canonical`: every object of the value is in order;
* `Json.ofTable`: an object with the members of a table.
-/

namespace CloudProvider

/-- A JSON number: an integer of 64 bits, or else a double. -/
inductive Number where
  | integer (value : Int)
  | double (value : Decimal.Binary64)
  deriving DecidableEq, Inhabited

/-- A JSON value. -/
inductive Json where
  | null
  | bool (value : Bool)
  | number (value : Number)
  | string (value : String)
  | array (items : List Json)
  | object (members : List (String × Json))
  deriving Inhabited

namespace Json

/-- An integer. -/
def int (n : Int) : Json := .number (.integer n)

/-- A natural number. -/
def nat (n : Nat) : Json := .int n

/-- A text that may be missing. -/
def optional (s : Option String) : Json := s.elim .null .string

/-- A list of texts. -/
def strings (l : List String) : Json := .array (l.map .string)

/-- The object with the members of a table. -/
def ofTable (t : Table Json) : Json := .object t.entries

mutual

/-- Whether every object has its members in strictly ascending order. -/
def Canonical : Json → Prop
  | .array items => CanonicalItems items
  | .object members => (members.Pairwise fun a b => a.1 < b.1) ∧ CanonicalMembers members
  | _ => True

/-- Whether every item of a list is canonical. -/
def CanonicalItems : List Json → Prop
  | [] => True
  | j :: rest => j.Canonical ∧ CanonicalItems rest

/-- Whether every member of a list is canonical. -/
def CanonicalMembers : List (String × Json) → Prop
  | [] => True
  | (_, j) :: rest => j.Canonical ∧ CanonicalMembers rest

end

end Json

end CloudProvider
