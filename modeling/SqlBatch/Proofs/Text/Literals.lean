import Mathlib.Algebra.Order.Field.Rat
import Mathlib.Tactic.FieldSimp
import SqlBatch.Number.Numeral
import SqlBatch.Proofs.Text.Digits
import SqlBatch.Proofs.Text.Quoted
import SqlBatch.Proofs.Text.Words

/-!
# Literals read back

A reader for the literals of a query: bare words, numerals and strings, the last ones behind a
keyword or alone. A text is read as a whole or not at all.
-/
namespace SqlBatch

/-- A number in a query. It is whole if it has neither a point nor an exponent. -/
structure Numeral where
  value : ℚ
  whole : Bool

/-- One literal; the sign of a number is part of it. -/
inductive Literal
  | word (text : List Char)
  | numeral (negative : Bool) (n : Numeral)
  | quoted (keyword body : List Char)

def Decimal.value (d : Decimal) : ℚ := d.digits * 10 ^ d.scale

/-! ### Readers -/

def readInt : List Char → Option Int
  | '-' :: digits => (number? (String.ofList digits)).map fun n : Nat => -(n : Int)
  | '+' :: digits => (number? (String.ofList digits)).map Int.ofNat
  | digits => (number? (String.ofList digits)).map Int.ofNat

/-- What stands behind the digits of a number: nothing, or an exponent. -/
def readExponent : List Char → Option Int
  | [] => some 0
  | c :: rest => if c = 'e' ∨ c = 'E' then readInt rest else none

def Numeral.read? (text : List Char) : Option Numeral :=
  let whole := text.takeWhile Char.isDigit
  if whole = [] then none
  else match text.dropWhile Char.isDigit with
    | [] => some ⟨Nat.ofDigitChars 10 whole 0, true⟩
    | '.' :: rest =>
      let fraction := rest.takeWhile Char.isDigit
      if fraction = [] then none
      else (readExponent (rest.dropWhile Char.isDigit)).map fun exponent =>
        ⟨Decimal.value ⟨Nat.ofDigitChars 10 (whole ++ fraction) 0, exponent - fraction.length⟩, false⟩
    | rest => (readExponent rest).map fun exponent =>
      ⟨Decimal.value ⟨Nat.ofDigitChars 10 whole 0, exponent⟩, false⟩

namespace Literal

def readString (keyword text : List Char) : Option Literal :=
  match readQuoted '\'' text with
  | some (body, []) => some (.quoted keyword body)
  | _ => none

/-- A word is a literal itself, or the keyword of the string behind it. -/
def readWord (word : List Char) : (behind : List Char) → Option Literal
  | [] => some (.word word)
  | ' ' :: '\'' :: rest => readString word rest
  | _ => none

def read? : List Char → Option Literal
  | [] => none
  | '\'' :: rest => readString [] rest
  | '-' :: rest => (Numeral.read? rest).map (.numeral true)
  | text =>
    let word := text.takeWhile Char.isAlpha
    if word = [] then (Numeral.read? text).map (.numeral false)
    else readWord word (text.dropWhile Char.isAlpha)

end Literal

/-! ### Whole numbers -/

theorem number?_toDigits (n : Nat) : number? (String.ofList (Nat.toDigits 10 n)) = some n := by
  rw [← Nat.toString_eq_ofList_toDigits, number?_toString]

/-- Digits are no sign. -/
theorem readInt_toDigits (n : Nat) : readInt (Nat.toDigits 10 n) = some (n : Int) := by
  have all : ∀ c ∈ Nat.toDigits 10 n, c.isDigit = true := fun _ => isDigit_toDigits
  have number := number?_toDigits n
  unfold readInt
  split
  · rename_i same
    exact absurd (all '-' (by simp [same])) (by decide)
  · rename_i same
    exact absurd (all '+' (by simp [same])) (by decide)
  · rw [number]
    rfl

theorem readInt_toString (n : Int) : readInt (toString n).toList = some n := by
  rw [toList_toString_int]
  split
  · have value : -(n.natAbs : Int) = n := by omega
    rw [readInt, number?_toDigits, Option.map_some, value]
  · have value : (n.natAbs : Int) = n := by omega
    rw [readInt_toDigits, value]

/-! ### Numerals -/

namespace Numeral

theorem read?_toDigits (n : Nat) : read? (Nat.toDigits 10 n) = some ⟨n, true⟩ := by
  have all : ∀ c ∈ Nat.toDigits 10 n, c.isDigit = true := fun _ => isDigit_toDigits
  have filled : Nat.toDigits 10 n ≠ [] := Nat.toDigits_ne_nil
  have taken := takeWhile_digits all endsRun_nil
  have dropped := dropWhile_digits all endsRun_nil
  rw [List.append_nil] at taken dropped
  simp only [read?, taken, dropped, if_neg filled, Nat.ofDigitChars_ten_toDigits]

section

variable {whole : List Char} {exponent : Int} (digits : ∀ c ∈ whole, c.isDigit = true)
  (filled : whole ≠ [])

include digits filled

theorem read?_pointed {fraction tail : List Char}
    (fractional : ∀ c ∈ fraction, c.isDigit = true) (more : fraction ≠ []) (ends : EndsRun tail)
    (behind : readExponent tail = some exponent) :
    read? (whole ++ '.' :: (fraction ++ tail)) =
      some ⟨Decimal.value ⟨Nat.ofDigitChars 10 (whole ++ fraction) 0,
        exponent - fraction.length⟩, false⟩ := by
  have point : EndsRun ('.' :: (fraction ++ tail)) := endsRun_cons rfl _
  simp only [read?, takeWhile_digits digits point, dropWhile_digits digits point,
    takeWhile_digits fractional ends, dropWhile_digits fractional ends, if_neg filled, if_neg more,
    behind, Option.map_some]

theorem read?_pointless {tail : List Char} (behind : readInt tail = some exponent) :
    read? (whole ++ 'e' :: tail) =
      some ⟨Decimal.value ⟨Nat.ofDigitChars 10 whole 0, exponent⟩, false⟩ := by
  have mark : EndsRun ('e' :: tail) := endsRun_cons rfl tail
  have power : readExponent ('e' :: tail) = some exponent := behind
  simp only [read?, takeWhile_digits digits mark, dropWhile_digits digits mark, if_neg filled]
  change (readExponent ('e' :: tail)).map _ = _
  rw [power, Option.map_some]

end
end Numeral

namespace Decimal

/-- Zeros behind the digits of a number make up for a lower scale. -/
theorem value_shifted (n count : Nat) (scale : Int) :
    value ⟨10 ^ count * n, scale - count⟩ = value ⟨n, scale⟩ := by
  have apart : (10 : ℚ) ^ (scale - count) = 10 ^ scale / 10 ^ count := by
    rw [zpow_sub₀ (by decide), zpow_natCast]
  rw [value, value, apart]
  push_cast
  field_simp

theorem isDigit_zeros {count : Nat} {c : Char} (member : c ∈ zeros count) : c.isDigit = true := by
  rw [List.eq_of_mem_replicate member]
  rfl

variable (d : Decimal)

theorem isDigit_digits : ∀ c ∈ Nat.toDigits 10 d.digits, c.isDigit = true :=
  fun _ => isDigit_toDigits

/-- The zero behind the point is one more zero behind the digits. -/
theorem read?_whole (upward : 0 ≤ d.scale) :
    Numeral.read? (Nat.toDigits 10 d.digits ++ zeros d.scale.toNat ++ ".0".toList) =
      some ⟨d.value, false⟩ := by
  let whole := Nat.toDigits 10 d.digits ++ zeros d.scale.toNat
  have digits : ∀ c ∈ whole, c.isDigit = true := fun c member =>
    (List.mem_append.mp member).elim (isDigit_digits d c) isDigit_zeros
  have filled : whole ≠ [] := by simp [whole]
  have read : Numeral.read? (whole ++ '.' :: (['0'] ++ [])) = _ :=
    Numeral.read?_pointed digits filled (by simp) (List.cons_ne_nil _ _) endsRun_nil rfl
  have number : Nat.ofDigitChars 10 (whole ++ ['0']) 0 = 10 ^ (d.scale.toNat + 1) * d.digits := by
    rw [Nat.ofDigitChars_append, Nat.ofDigitChars_append, Nat.ofDigitChars_ten_toDigits, zeros,
      Nat.ofDigitChars_replicate_zero, Nat.pow_succ', Nat.mul_assoc]
    rfl
  have scale : (0 : Int) - (['0'] : List Char).length = d.scale - (d.scale.toNat + 1 : Nat) := by
    simp only [List.length_singleton]
    omega
  rw [number, scale, value_shifted] at read
  exact read

/-- On either side of the point stand digits of the number. -/
theorem read?_inside {place : Nat} (positive : 0 < place)
    (inside : (place : Int) = (Nat.toDigits 10 d.digits).length + d.scale)
    (downward : d.scale < 0) :
    Numeral.read? ((Nat.toDigits 10 d.digits).take place ++
      '.' :: (Nat.toDigits 10 d.digits).drop place) = some ⟨d.value, false⟩ := by
  let fraction := (Nat.toDigits 10 d.digits).drop place
  have before : ∀ c ∈ (Nat.toDigits 10 d.digits).take place, c.isDigit = true :=
    fun c member => isDigit_digits d c (List.mem_of_mem_take member)
  have behind : ∀ c ∈ fraction, c.isDigit = true :=
    fun c member => isDigit_digits d c (List.mem_of_mem_drop member)
  have filled : (Nat.toDigits 10 d.digits).take place ≠ [] := by
    rw [Ne, List.take_eq_nil_iff]
    exact not_or.mpr ⟨by omega, Nat.toDigits_ne_nil⟩
  have length : (fraction.length : Int) = -d.scale := by
    rw [List.length_drop]
    omega
  have more : fraction ≠ [] := by
    rintro none
    rw [none, List.length_nil] at length
    omega
  have read : Numeral.read? ((Nat.toDigits 10 d.digits).take place ++ '.' :: (fraction ++ [])) = _ :=
    Numeral.read?_pointed before filled behind more endsRun_nil rfl
  rwa [List.append_nil, List.take_append_drop, Nat.ofDigitChars_ten_toDigits, length, sub_neg_eq_add,
    zero_add] at read

/-- All digits of the number stand behind the point. -/
theorem read?_outside {count : Nat}
    (outside : (count : Int) = -((Nat.toDigits 10 d.digits).length + d.scale)) :
    Numeral.read? ("0.".toList ++ zeros count ++ Nat.toDigits 10 d.digits) =
      some ⟨d.value, false⟩ := by
  let fraction := zeros count ++ Nat.toDigits 10 d.digits
  have behind : ∀ c ∈ fraction, c.isDigit = true := fun c member =>
    (List.mem_append.mp member).elim isDigit_zeros (isDigit_digits d c)
  have more : fraction ≠ [] := by simp [fraction]
  have number : Nat.ofDigitChars 10 (['0'] ++ fraction) 0 = d.digits := by
    rw [Nat.ofDigitChars_append, Nat.ofDigitChars_append, zeros, Nat.ofDigitChars_replicate_zero]
    exact Nat.ofDigitChars_ten_toDigits
  have length : (fraction.length : Int) = -d.scale := by
    simp only [fraction, zeros, List.length_append, List.length_replicate]
    omega
  have read : Numeral.read? (['0'] ++ '.' :: (fraction ++ [])) = _ :=
    Numeral.read?_pointed (by simp) (List.cons_ne_nil _ _) behind more endsRun_nil rfl
  rwa [List.append_nil, number, length, sub_neg_eq_add, zero_add] at read

theorem read?_positional : Numeral.read? d.positional = some ⟨d.value, false⟩ := by
  unfold positional
  dsimp only
  split
  · exact read?_whole d ‹_›
  · split
    · exact read?_inside d (by omega) (by omega) (by omega)
    · exact read?_outside d (by omega)

theorem read?_scientific : Numeral.read? d.scientific = some ⟨d.value, false⟩ := by
  have all := isDigit_digits d
  have number : Nat.ofDigitChars 10 (Nat.toDigits 10 d.digits) 0 = d.digits :=
    Nat.ofDigitChars_ten_toDigits
  obtain ⟨first, rest, digits⟩ := List.exists_cons_of_ne_nil
    (Nat.toDigits_ne_nil : Nat.toDigits 10 d.digits ≠ [])
  rw [digits] at all number
  obtain ⟨leading, later⟩ := List.forall_mem_cons.mp all
  have single : ∀ c ∈ [first], c.isDigit = true := by simpa using leading
  have filled : [first] ≠ [] := List.cons_ne_nil _ _
  let exponent : Int := (first :: rest).length + d.scale - 1
  have power : readInt (toString exponent).toList = some exponent := readInt_toString exponent
  have text : d.scientific = [first] ++ (if rest.isEmpty then [] else '.' :: rest) ++
      'e' :: (toString exponent).toList := by
    unfold scientific
    rw [digits]
    rfl
  rw [text]
  cases rest with
  | nil =>
    have scale : exponent = d.scale := by simp [exponent]
    have read := Numeral.read?_pointless single filled power
    rw [number] at read
    rwa [scale] at read ⊢
  | cons second others =>
    have scale : exponent - (second :: others).length = d.scale := by
      simp only [exponent, List.length_cons]
      omega
    have mark : EndsRun ('e' :: (toString exponent).toList) := endsRun_cons rfl _
    have read := Numeral.read?_pointed single filled later (List.cons_ne_nil _ _) mark power
    rwa [scale, List.singleton_append (l := second :: others), number] at read

theorem read?_numeral : Numeral.read? d.numeral = some ⟨d.value, false⟩ := by
  unfold numeral
  dsimp only
  split
  · exact read?_positional d
  · exact read?_scientific d

end Decimal

/-! ### Literals -/

theorem Numeral.starts_of_read? {text : List Char} {n : Numeral}
    (read : Numeral.read? text = some n) : ∃ c rest, text = c :: rest ∧ c.isDigit = true := by
  cases text with
  | nil => cases read
  | cons c rest =>
    cases digit : c.isDigit with
    | true => exact ⟨c, rest, rfl, digit⟩
    | false => simp [Numeral.read?, digit] at read

namespace Literal

/-- What begins with neither a quote nor a sign. -/
theorem read?_cons {c : Char} (unquoted : c ≠ '\'') (unsigned : c ≠ '-') (rest : List Char) :
    read? (c :: rest) =
      if (c :: rest).takeWhile Char.isAlpha = [] then
        (Numeral.read? (c :: rest)).map (.numeral false)
      else readWord ((c :: rest).takeWhile Char.isAlpha) ((c :: rest).dropWhile Char.isAlpha) := by
  unfold read?
  split <;> simp_all

theorem read?_signed (negative : Bool) {text : List Char} {n : Numeral}
    (number : Numeral.read? text = some n) :
    read? (if negative then '-' :: text else text) = some (.numeral negative n) := by
  cases negative with
  | false =>
    obtain ⟨c, rest, rfl, digit⟩ := Numeral.starts_of_read? number
    have letters : (c :: rest).takeWhile Char.isAlpha = [] := by
      simp [isAlpha_of_isDigit digit]
    have unquoted : c ≠ '\'' := ne_of_isDigit digit rfl
    have unsigned : c ≠ '-' := ne_of_isDigit digit rfl
    change read? (c :: rest) = _
    rw [read?_cons unquoted unsigned, if_pos letters, number, Option.map_some]
  | true => exact congrArg (Option.map (numeral true)) number

theorem readString_doubled (keyword body : List Char) :
    readString keyword (doubled '\'' body ++ ['\'']) = some (.quoted keyword body) := by
  have ends : ∀ c ∈ ([] : List Char).head?, c ≠ '\'' := fun c first => by cases first
  rw [readString, readQuoted_doubled '\'' body ends]

theorem read?_singleQuoted (s : String) :
    read? (singleQuoted s).toList = some (.quoted [] s.toList) := by
  rw [singleQuoted, String.toList_ofList]
  exact readString_doubled [] s.toList

theorem read?_keyword {keyword : List Char} (letters : ∀ c ∈ keyword, c.isAlpha = true)
    (filled : keyword ≠ []) (body : List Char) :
    read? (keyword ++ ' ' :: '\'' :: (doubled '\'' body ++ ['\''])) =
      some (.quoted keyword body) := by
  obtain ⟨c, rest, rfl⟩ := List.exists_cons_of_ne_nil filled
  have letter : c.isAlpha = true := letters c List.mem_cons_self
  have unquoted : c ≠ '\'' := by
    rintro rfl
    cases letter
  have unsigned : c ≠ '-' := by
    rintro rfl
    cases letter
  let behind := ' ' :: '\'' :: (doubled '\'' body ++ ['\''])
  have taken : (c :: rest ++ behind).takeWhile Char.isAlpha = c :: rest := by
    rw [List.takeWhile_append_of_pos letters]
    exact List.append_nil _
  have dropped : (c :: rest ++ behind).dropWhile Char.isAlpha = behind := by
    rw [List.dropWhile_append_of_pos letters]
    rfl
  rw [List.cons_append] at taken dropped ⊢
  rw [read?_cons unquoted unsigned, taken, dropped, if_neg (List.cons_ne_nil _ _)]
  exact readString_doubled (c :: rest) body

end Literal
end SqlBatch
