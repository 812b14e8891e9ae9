import CloudProvider.Decimal.Binary64

/-!
# Shortest decimals

The decimal digits that stand for a double: as few as possible so that the double
is still the nearest one to them, and of those the ones closest to its exact
value. A double is read back from any decimal in the interval between the
half-way points to its neighbours, ends included when its significand is even
(`Binary64.readBack`). For each number of digits only the two decimals next to
the exact value need a test: if any decimal of that many digits lies in the
interval, one of these two does.

* `Shortest.ofBinary64`: the digits and where the point stands.
-/

namespace CloudProvider.Decimal

/-- A decimal `0.d₁d₂… * 10 ^ point`, its digits read as one number. -/
structure Shortest where
  digits : Nat
  point : Int
  deriving DecidableEq, Inhabited

/-- A power of ten, as numerator and denominator. -/
def tenPowFraction (e : Int) : Nat × Nat := (Nat.pow 10 e.toNat, Nat.pow 10 (-e).toNat)

/-- The number of decimal digits of a positive number. -/
def digitCount (n : Nat) : Nat := (Nat.toDigits 10 n).length

/-- The `p` with `10 ^ (p - 1) ≤ num / den < 10 ^ p`. -/
def pointOf (num den : Nat) : Int :=
  if den ≤ num then digitCount (num / den)
  else
    -- Below one, the zeros after the point are counted at the inverse.
    let up := (den + num - 1) / num - 1
    1 - (digitCount up : Int)

/-- A number without the zeros it ends in. -/
def stripZeros (n : Nat) : Nat :=
  if n = 0 then 0 else if n % 10 = 0 then stripZeros (n / 10) else n
termination_by n
decreasing_by omega

/-- The interval of fractions that a double is the nearest one to. -/
structure Interval where
  low : Nat × Nat
  high : Nat × Nat
  closed : Bool

namespace Interval

/-- Whether a fraction lies in the interval. -/
def contains (i : Interval) (num den : Nat) : Bool :=
  let below := i.low.1 * den
  let value := num * i.low.2
  let value' := num * i.high.2
  let above := i.high.1 * den
  (below < value && value' < above) || (i.closed && below ≤ value && value' ≤ above)

end Interval

namespace Binary64

/-- The fractions that are read back as a given positive double. Below a power of
    two the neighbour is only half as far away as above it. -/
def readBack (x : Binary64) : Interval :=
  let p := twoPow (x.exponent - 2)
  let m := 4 * x.significand
  let down := if x.significand = leastFull ∧ leastExponent < x.exponent then 1 else 2
  ⟨((m - down) * p.1, p.2), ((m + 2) * p.1, p.2), x.significand % 2 = 0⟩

end Binary64

namespace Shortest

/-- The decimal of `n` digits next to a fraction that the interval holds, the
    nearer if both its neighbours do, an even last digit breaking a tie. -/
def candidate? (i : Interval) (num den : Nat) (point : Int) (n : Nat) : Option Nat :=
  let unit := tenPowFraction (point - n)
  let below := num * unit.2 / (den * unit.1)
  let holds := fun d => i.contains (d * unit.1) unit.2
  if holds below then
    if holds (below + 1) then
      let twice := 2 * (num * unit.2)
      let middle := (2 * below + 1) * (den * unit.1)
      if twice < middle ∨ (twice = middle ∧ below % 2 = 0) then some below else some (below + 1)
    else some below
  else if holds (below + 1) then some (below + 1)
  else none

/-- The number of digits that always suffices. -/
def maxDigits : Nat := 17

/-- The shortest decimal that is read back as the given double. -/
def ofBinary64 (x : Binary64) : Shortest :=
  if x.significand = 0 then ⟨0, 1⟩
  else
    let (num, den) := x.magnitude
    let point := pointOf num den
    let found := (List.range maxDigits).findSome? fun k =>
      (candidate? x.readBack num den point (k + 1)).map fun d => (d, k + 1)
    match found with
    | some (d, n) => ⟨stripZeros d, point + (digitCount d - n : Int)⟩
    | none => ⟨0, 1⟩

end Shortest

end CloudProvider.Decimal
