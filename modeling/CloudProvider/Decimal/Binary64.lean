/-!
# Double precision

Fractions that a double-precision number can hold: a significand of at most 53
bits times a power of two no smaller than 2⁻¹⁰⁷⁴. All arithmetic is on natural
numbers: a product or a quotient is formed exactly and then rounded once
(`Binary64.nearest`), to the nearest such fraction and from half-way to the one
with an even significand.

* `Binary64.scale`: a number times a power of ten, each step rounded.
-/

namespace CloudProvider.Decimal

/-- A quotient rounded to the nearest natural number, a half to the even one. -/
def roundDiv (num den : Nat) : Nat :=
  let q := num / den
  let r := num % den
  if 2 * r < den ∨ (2 * r = den ∧ q % 2 = 0) then q else q + 1

/-- A finite double: `significand * 2 ^ exponent`, with a sign of its own. -/
structure Binary64 where
  negative : Bool
  significand : Nat
  exponent : Int
  deriving DecidableEq, Inhabited

namespace Binary64

/-- The exponent of the least positive double. -/
def leastExponent : Int := -1074

/-- The exponent of the greatest double. -/
def greatestExponent : Int := 971

/-- The double zero. -/
def zero (negative : Bool) : Binary64 := ⟨negative, 0, leastExponent⟩

/-- The least significand of 53 bits. -/
def leastFull : Nat := Nat.pow 2 52

/-- A power of two, as numerator and denominator. -/
def twoPow (e : Int) : Nat × Nat := (Nat.pow 2 e.toNat, Nat.pow 2 (-e).toNat)

/-- The magnitude as numerator and denominator. -/
def magnitude (x : Binary64) : Nat × Nat :=
  let p := twoPow x.exponent
  (x.significand * p.1, p.2)

/-- The greatest `e` with `2 ^ e ≤ num / den`, both of them positive. -/
def floorLog2 (num den : Nat) : Int :=
  -- The quotient of numbers of `m` and `n` bits has `m - n` or `m - n + 1` of them.
  let e : Int := num.log2 - den.log2
  let p := twoPow e
  if num * p.2 < den * p.1 then e - 1 else e

/-- The double nearest to a fraction; none when it is beyond the greatest one. -/
def nearest (negative : Bool) (num den : Nat) : Option Binary64 :=
  if num = 0 then some (zero negative)
  else
    -- The unit that leaves 53 bits before the point, but none below the least.
    let e := max (floorLog2 num den - 52) leastExponent
    let p := twoPow e
    let m := roundDiv (num * p.2) (den * p.1)
    -- Rounding up may carry into a 54th bit; then the significand is a power of two.
    let x : Binary64 :=
      if m = 2 * leastFull then ⟨negative, leastFull, e + 1⟩ else ⟨negative, m, e⟩
    if x.exponent ≤ greatestExponent then some x else none

/-- The double nearest to a natural number below 2⁶⁴. -/
def ofNat (n : Nat) : Binary64 := (nearest false n 1).getD (zero false)

/-- The product of magnitudes, rounded. -/
def mul (x y : Binary64) : Option Binary64 :=
  let p := x.magnitude
  let q := y.magnitude
  nearest (x.negative != y.negative) (p.1 * q.1) (p.2 * q.2)

/-- The quotient of magnitudes, rounded. -/
def div (x y : Binary64) : Option Binary64 :=
  let p := x.magnitude
  let q := y.magnitude
  nearest (x.negative != y.negative) (p.1 * q.2) (p.2 * q.1)

/-- The double nearest to a power of ten; zero beyond the range of doubles. -/
def tenPow (n : Nat) : Binary64 := (nearest false (Nat.pow 10 n) 1).getD (zero false)

/-- The greatest power of ten that a double is multiplied with in one step. -/
def tenPowLimit : Nat := 308

/-- A double divided by the greatest power of ten a number of times; what has
    become zero stays zero. -/
def divGreatest (x : Binary64) : Nat → Option Binary64
  | 0 => some x
  | k + 1 =>
    if x.significand = 0 then some x
    else (x.div (tenPow tenPowLimit)).bind fun y => divGreatest y k

/-- A double divided by a power of ten, in steps of at most `tenPowLimit` digits. -/
def divTenPow (x : Binary64) (n : Nat) : Option Binary64 :=
  let k := (n - 1) / tenPowLimit
  (x.divGreatest k).bind fun y => y.div (tenPow (n - k * tenPowLimit))

/-- A double times a power of ten; none when the result is out of range. -/
def scale (x : Binary64) : Int → Option Binary64
  | .ofNat n =>
    if n ≤ tenPowLimit then x.mul (tenPow n)
    else if x.significand = 0 then some x
    else none
  | .negSucc n => x.divTenPow (n + 1)

/-- A double with the opposite sign. -/
def neg (x : Binary64) : Binary64 := { x with negative := !x.negative }

end Binary64

end CloudProvider.Decimal
