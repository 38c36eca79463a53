/-!
# Floating-point numbers as bit patterns

A double is its sixty-four bits, so two numbers are the same object exactly when their bits are;
`Binary64.agrees` is the weaker comparison of the numbers that the bits stand for.
-/
namespace SqlBatch

/-- A double-precision number in interchange format. -/
structure Binary64 where
  bits : UInt64
  deriving DecidableEq

/-- A single-precision number in interchange format. -/
structure Binary32 where
  bits : UInt32
  deriving DecidableEq

namespace Binary64

/-! ### Fields -/

def negative (x : Binary64) : Bool := x.bits.toNat / Nat.pow 2 63 = 1

def exponentField (x : Binary64) : Nat := x.bits.toNat / Nat.pow 2 52 % Nat.pow 2 11

def fraction (x : Binary64) : Nat := x.bits.toNat % Nat.pow 2 52

def isNaN (x : Binary64) : Bool := x.exponentField = 2047 ∧ x.fraction ≠ 0

def isInfinite (x : Binary64) : Bool := x.exponentField = 2047 ∧ x.fraction = 0

def isZero (x : Binary64) : Bool := x.exponentField = 0 ∧ x.fraction = 0

/-- A finite number is `significand * 2 ^ exponent` up to its sign. -/
def significand (x : Binary64) : Nat :=
  if x.exponentField = 0 then x.fraction else x.fraction + Nat.pow 2 52

def exponent (x : Binary64) : Int := (max x.exponentField 1 : Nat) - 1075

/-! ### Comparison -/

/-- Numeric equality: a number that is not one agrees with nothing, and the two zeros agree. -/
def agrees (x y : Binary64) : Bool :=
  !x.isNaN && !y.isNaN && (x = y || x.isZero && y.isZero)

/-! ### Conversion -/

def pack (isNegative : Bool) (magnitude : Nat) : Binary64 :=
  ⟨UInt64.ofNat ((if isNegative then Nat.pow 2 63 else 0) + magnitude)⟩

/-- The quotient `n / 2 ^ shift` rounded to the nearest integer, a half going to the even one. -/
def roundShift (n shift : Nat) : Nat :=
  let unit := Nat.pow 2 shift
  let quotient := n / unit
  let twice := 2 * (n % unit)
  if twice > unit ∨ twice = unit ∧ quotient % 2 = 1 then quotient + 1 else quotient

/-- The double nearest to an integer. A significand that rounds up to `2 ^ 53` carries into the
exponent, which is the number it stands for. -/
def ofInt (n : Int64) : Binary64 :=
  let magnitude := n.toInt.natAbs
  if magnitude = 0 then pack false 0
  else
    let top := magnitude.log2
    let rounded :=
      if top ≤ 52 then magnitude * Nat.pow 2 (52 - top) else roundShift magnitude (top - 52)
    pack (n.toInt < 0) ((top + 1022) * Nat.pow 2 52 + rounded)

/-- Every single is a double; one that is not a number becomes quiet and keeps its payload. -/
def ofSingle (x : Binary32) : Binary64 :=
  let bits := x.bits.toNat
  let sign : Bool := bits / Nat.pow 2 31 = 1
  let exponent := bits / Nat.pow 2 23 % Nat.pow 2 8
  let fraction := bits % Nat.pow 2 23
  if exponent = 255 then
    pack sign (2047 * Nat.pow 2 52 +
      if fraction = 0 then 0 else fraction % Nat.pow 2 22 * Nat.pow 2 29 + Nat.pow 2 51)
  else if exponent ≠ 0 then pack sign ((exponent + 896) * Nat.pow 2 52 + fraction * Nat.pow 2 29)
  else if fraction = 0 then pack sign 0
  else
    let top := fraction.log2
    pack sign ((top + 874) * Nat.pow 2 52 + (fraction - Nat.pow 2 top) * Nat.pow 2 (52 - top))

end Binary64
end SqlBatch
