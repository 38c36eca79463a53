import SqlBatch.Number.Binary64

/-!
# Shortest decimal digits

A positive double is written with the fewest decimal digits that read back as the same double.
Those digits are the multiple of the coarsest power of ten that lies among the reals rounding to
the double; of two such multiples the nearer is taken, and the larger when they are equally near.
-/
namespace SqlBatch

structure Decimal where
  digits : Nat
  scale : Int
  deriving DecidableEq

/-- The reals that round to one double, all ends and the double itself scaled by one factor: they
lie from `low` to `high`, ends included where `closed` holds. -/
structure RoundingInterval where
  low : Nat
  exact : Nat
  high : Nat
  closed : Bool

namespace RoundingInterval

def contains (interval : RoundingInterval) (point : Nat) : Bool :=
  if interval.closed then interval.low ≤ point && point ≤ interval.high
  else interval.low < point && point < interval.high

def multiple? (interval : RoundingInterval) (unit : Nat) : Option Nat :=
  let below := interval.exact / unit
  let hitsBelow := interval.contains (below * unit)
  let hitsAbove := interval.contains ((below + 1) * unit)
  let nearerAbove : Bool := unit ≤ 2 * (interval.exact - below * unit)
  if hitsAbove && (nearerAbove || !hitsBelow) then some (below + 1)
  else if hitsBelow then some below
  else none

def multipleAt? (interval : RoundingInterval) (denominator : Nat) (scale : Int) : Option Nat :=
  let up := Nat.pow 10 (-scale).toNat
  multiple? ⟨interval.low * up, interval.exact * up, interval.high * up, interval.closed⟩
    (denominator * Nat.pow 10 scale.toNat)

end RoundingInterval

namespace Binary64

/-- The reals that round to a positive finite double, over the common denominator that comes
second. Below a power of two the next double is only half as far away. -/
def roundingInterval (x : Binary64) : RoundingInterval × Nat :=
  let factor := Nat.pow 2 (x.exponent - 2).toNat
  let center := 4 * x.significand
  let below := if x.fraction = 0 ∧ 1 < x.exponentField then 1 else 2
  (⟨(center - below) * factor, center * factor, (center + 2) * factor, x.significand % 2 = 0⟩,
    Nat.pow 2 (2 - x.exponent).toNat)

/-- Tries the powers of ten from `scale` downwards. Seventeen digits always suffice, so the
search ends before `attempts` does. -/
def shortestFrom (interval : RoundingInterval) (denominator : Nat) :
    (attempts : Nat) → (scale : Int) → Decimal
  | 0, scale => ⟨0, scale⟩
  | attempts + 1, scale =>
    match interval.multipleAt? denominator scale with
    | some digits => ⟨digits, scale⟩
    | none => shortestFrom interval denominator attempts (scale - 1)

/-- The shortest decimal of a positive finite double. The first power of ten tried exceeds the
double: `30103 / 100000` is just above the decimal logarithm of two. -/
def shortest (x : Binary64) : Decimal :=
  let top := ((x.significand.log2 + 1 : Nat) + x.exponent) * 30103 / 100000 + 1
  let (interval, denominator) := x.roundingInterval
  shortestFrom interval denominator 24 top

end Binary64
end SqlBatch
