import CloudProvider.Json.Basic

/-!
# Numerals

Numbers as JSON writes them, and the values they stand for. A numeral without
fraction and exponent that fits 64 bits is that integer, with one exception: `-0`
is the double. Any other numeral is a double, found in two steps: the leading
digits that fit 64 bits are taken as one number, and that number is scaled by the
power of ten that the digits left over, the fraction and the exponent amount to.

* `Numeral.ofChars?`: the grammar;
* `Numeral.value?`: the value, if it is in the range of doubles.
-/

namespace CloudProvider

/-- A numeral by its parts. -/
structure Numeral where
  negative : Bool
  whole : List Char
  fraction : List Char
  /-- The sign and the digits after `e`. -/
  exponent : Option (Bool × List Char)

namespace Numeral

/-- The digits that a text begins with, and the rest of it. -/
def digits (s : List Char) : List Char × List Char :=
  (s.takeWhile Char.isDigit, s.dropWhile Char.isDigit)

/-- The number that a list of digits stands for. -/
def ofDigits (s : List Char) : Nat := s.foldl (fun n c => 10 * n + (c.toNat - '0'.toNat)) 0

/-- An exponent, up to the end of the text. -/
def exponent? (s : List Char) : Option (Bool × List Char) :=
  let (negative, rest) := match s with
    | '+' :: rest => (false, rest)
    | '-' :: rest => (true, rest)
    | _ => (false, s)
  match digits rest with
  | ([], _) => none
  | (ds, []) => some (negative, ds)
  | _ => none

/-- What follows the digits before the point, up to the end of the text. -/
def tail? (negative : Bool) (whole fraction : List Char) : List Char → Option Numeral
  | [] => some ⟨negative, whole, fraction, none⟩
  | c :: rest =>
    if c = 'e' ∨ c = 'E' then
      (exponent? rest).map fun e => ⟨negative, whole, fraction, some e⟩
    else none

/-- A numeral: no leading zeros, and digits on both sides of a point. -/
def ofChars? (s : List Char) : Option Numeral :=
  let (negative, rest) := match s with
    | '-' :: rest => (true, rest)
    | _ => (false, s)
  match digits rest with
  | ([], _) => none
  | (whole, rest) =>
    if whole.length ≠ 1 ∧ whole.head? = some '0' then none
    else
      match rest with
      | '.' :: rest =>
        match digits rest with
        | ([], _) => none
        | (fraction, rest) => tail? negative whole fraction rest
      | _ => tail? negative whole [] rest

/-- The least number beyond 64 bits. -/
def limit : Nat := Nat.pow 2 64

/-- Take digits into a number as long as it fits 64 bits; also how many digits
    are left over. -/
def absorb (n : Nat) : List Char → Nat × Nat
  | [] => (n, 0)
  | c :: rest =>
    let n' := 10 * n + (c.toNat - '0'.toNat)
    if n' < limit then absorb n' rest else (n, rest.length + 1)

/-- The exponent as a number. -/
def power (x : Numeral) : Int :=
  match x.exponent with
  | none => 0
  | some (false, ds) => ofDigits ds
  | some (true, ds) => -(ofDigits ds : Int)

/-- A number times a power of ten, as a double. -/
def double? (negative : Bool) (n : Nat) (e : Int) : Option Number :=
  ((Decimal.Binary64.ofNat n).scale e).map fun x => .double (if negative then x.neg else x)

/-- The value of a numeral, if it is in range. -/
def value? (x : Numeral) : Option Number :=
  let (n, left) := absorb 0 x.whole
  if x.fraction = [] ∧ x.exponent.isNone ∧ left = 0 then
    if x.negative then
      -- There is no negative zero among the integers.
      if n = 0 ∨ limit < 2 * n then double? true n 0 else some (.integer (-n))
    else some (.integer n)
  else
    -- The fraction goes on filling the significand, also where the whole part has
    -- run out of room: its digits are then taken for digits of the whole part.
    let (n, unread) := absorb n x.fraction
    double? x.negative n (x.power + left - (x.fraction.length - unread : Nat))

end Numeral

end CloudProvider
