import SqlBatch.Number.Shortest

/-!
# Numerals for doubles

The numeral of a double has its shortest digits, always a fraction or an exponent, and positional
notation from `1e-4` up to, not including, `1e16`.
-/
namespace SqlBatch

namespace Decimal

def zeros (count : Nat) : List Char := List.replicate count '0'

/-- Positional notation with at least one digit on either side of the point. -/
def positional (d : Decimal) : List Char :=
  let digits := Nat.toDigits 10 d.digits
  let point := digits.length + d.scale
  if 0 ≤ d.scale then digits ++ zeros d.scale.toNat ++ ".0".toList
  else if 0 < point then digits.take point.toNat ++ '.' :: digits.drop point.toNat
  else "0.".toList ++ zeros (-point).toNat ++ digits

/-- One digit before the point; an exponent has neither a plus sign nor padding. -/
def scientific (d : Decimal) : List Char :=
  let digits := Nat.toDigits 10 d.digits
  let exponent := digits.length + d.scale - 1
  let leading := digits.take 1
  let rest := digits.drop 1
  leading ++ (if rest.isEmpty then [] else '.' :: rest) ++ 'e' :: (toString exponent).toList

/-- The exponent that scientific notation would show decides between the two notations. -/
def numeral (d : Decimal) : List Char :=
  let exponent := (Nat.toDigits 10 d.digits).length + d.scale - 1
  if -4 ≤ exponent ∧ exponent < 16 then d.positional else d.scientific

end Decimal

/-- The numeral of a double; what is no number has no sign. -/
def Binary64.numeral (x : Binary64) : String :=
  if x.isNaN then "NaN"
  else
    let sign := if x.negative then "-" else ""
    if x.isInfinite then sign ++ "inf"
    else if x.isZero then sign ++ "0.0"
    else sign ++ String.ofList x.shortest.numeral

end SqlBatch
