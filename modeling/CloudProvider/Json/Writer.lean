import CloudProvider.Decimal.Shortest
import CloudProvider.Json.Basic

/-!
# Writing JSON

The compact text of a JSON value: no blanks, members in the order of the object,
characters written as they are unless JSON demands an escape.

* `Json.compact`: the text of a value;
* `DecimalLayout`: where a double is written with a point and where with an
  exponent.
-/

namespace CloudProvider

/-- How a shortest decimal is laid out. -/
structure DecimalLayout where
  /-- The least power of ten whose multiples are written without exponent. -/
  leastPlain : Int
  /-- The least power of ten from which on an exponent is written. -/
  leastScientific : Int

namespace DecimalLayout

/-- The exponent of a number in scientific notation, always with a sign. -/
def exponent (e : Int) : String :=
  if e < 0 then "e-" ++ toString e.natAbs else "e+" ++ toString e.natAbs

/-- A decimal with a point in it, or with an exponent. -/
def write (layout : DecimalLayout) (x : Decimal.Shortest) : String :=
  let ds := Nat.toDigits 10 x.digits
  let e := x.point - 1
  if layout.leastPlain ≤ e ∧ e < layout.leastScientific then
    if x.point ≤ 0 then
      "0." ++ String.ofList (List.replicate (-x.point).toNat '0' ++ ds)
    else
      let n := x.point.toNat
      if ds.length ≤ n then
        String.ofList (ds ++ List.replicate (n - ds.length) '0') ++ ".0"
      else String.ofList (ds.take n) ++ "." ++ String.ofList (ds.drop n)
  else
    match ds with
    | [] => exponent e
    | [d] => String.ofList [d] ++ exponent e
    | d :: rest => String.ofList (d :: '.' :: rest) ++ exponent e

end DecimalLayout

namespace Number

/-- Doubles from 0.00001 up to 10¹⁶ are written with a point, the others with an
    exponent. -/
def layout : DecimalLayout := ⟨-5, 16⟩

/-- The text of a number. -/
def compact : Number → String
  | .integer n => toString n
  | .double x =>
    (if x.negative then "-" else "") ++
      (if x.significand = 0 then "0.0" else layout.write (.ofBinary64 x))

end Number

namespace Json

/-- A digit of a hexadecimal number, in lower case. -/
def hexChar (n : Nat) : Char := Nat.digitChar n

/-- The characters that stand for a character in a quoted text. -/
def escape (c : Char) : List Char :=
  if c = '"' then ['\\', '"']
  else if c = '\\' then ['\\', '\\']
  else if c = '\x08' then ['\\', 'b']
  else if c = '\x0c' then ['\\', 'f']
  else if c = '\n' then ['\\', 'n']
  else if c = '\r' then ['\\', 'r']
  else if c = '\t' then ['\\', 't']
  else if c.toNat < 0x20 then
    ['\\', 'u', '0', '0', hexChar (c.toNat / 16), hexChar (c.toNat % 16)]
  else [c]

/-- A text in quotes. -/
def quote (s : String) : String := "\"" ++ String.ofList (s.toList.flatMap escape) ++ "\""

mutual

/-- The text of a value. -/
def compact : Json → String
  | .null => "null"
  | .bool b => if b then "true" else "false"
  | .number n => n.compact
  | .string s => quote s
  | .array items => "[" ++ ",".intercalate (compactItems items) ++ "]"
  | .object members => "\x7b" ++ ",".intercalate (compactMembers members) ++ "\x7d"

/-- The texts of a list of values. -/
def compactItems : List Json → List String
  | [] => []
  | j :: rest => compact j :: compactItems rest

/-- The texts of a list of members. -/
def compactMembers : List (String × Json) → List String
  | [] => []
  | (name, j) :: rest => (quote name ++ ":" ++ compact j) :: compactMembers rest

end

end Json

end CloudProvider
