import Mathlib.Data.List.Basic

/-!
# Runs of digits

A run of digits is read up to the first other character.
-/
namespace SqlBatch

/-- What can stand behind a run of digits. -/
def EndsRun (rest : List Char) : Prop := ∀ c ∈ rest.head?, c.isDigit = false

theorem endsRun_nil : EndsRun [] := nofun

theorem endsRun_cons {c : Char} (other : c.isDigit = false) (rest : List Char) :
    EndsRun (c :: rest) := by
  intro d first
  rwa [← Option.some.inj first]

theorem isDigit_toDigits {n : Nat} {c : Char} (member : c ∈ Nat.toDigits 10 n) :
    c.isDigit = true := Nat.isDigit_of_mem_toDigits (by decide) (by decide) member

theorem isDigit_toString {n : Nat} {c : Char} (member : c ∈ (toString n).toList) :
    c.isDigit = true := by
  rw [Nat.toString_eq_ofList_toDigits, String.toList_ofList] at member
  exact isDigit_toDigits member

theorem toString_ne_empty (n : Nat) : toString n ≠ "" := by
  rw [Nat.toString_eq_ofList_toDigits]
  simp [Nat.toDigits_ne_nil]

section

variable {digits rest : List Char} (all : ∀ c ∈ digits, c.isDigit = true) (ends : EndsRun rest)

include all ends

theorem takeWhile_digits : (digits ++ rest).takeWhile Char.isDigit = digits := by
  rw [List.takeWhile_append_of_pos all]
  cases rest with
  | nil => simp
  | cons c rest => simp [ends c rfl]

theorem dropWhile_digits : (digits ++ rest).dropWhile Char.isDigit = rest := by
  rw [List.dropWhile_append_of_pos all]
  cases rest with
  | nil => rfl
  | cons c rest => simp [ends c rfl]

end

/-- A digit is none of the characters that are looked for by name. -/
theorem ne_of_isDigit {c other : Char} (digit : c.isDigit = true)
    (none : other.isDigit = false) : c ≠ other := by
  rintro rfl
  rw [digit] at none
  cases none

theorem bounds_of_isDigit {c : Char} (digit : c.isDigit = true) :
    48 ≤ c.toNat ∧ c.toNat ≤ 57 := by
  simpa [Char.isDigit, UInt32.le_iff_toNat_le] using digit

theorem isAlpha_of_isDigit {c : Char} (digit : c.isDigit = true) : c.isAlpha = false := by
  obtain ⟨low, high⟩ := bounds_of_isDigit digit
  have upper : ¬(c.val ≥ 'A'.val ∧ c.val ≤ 'Z'.val) := by
    rintro ⟨least, -⟩
    exact absurd (Nat.le_trans (UInt32.le_iff_toNat_le.mp least) high) (by decide)
  have lower : ¬c.val ≥ 'a'.val := by
    intro least
    exact absurd (Nat.le_trans (UInt32.le_iff_toNat_le.mp least) high) (by decide)
  have neither : (decide (c.val ≥ 'A'.val ∧ c.val ≤ 'Z'.val) ||
      (decide (c.val ≥ 'a'.val) && decide (c.val ≤ 'z'.val))) = false := by
    rw [decide_eq_false upper, decide_eq_false lower, Bool.false_and, Bool.false_or]
  exact neither

theorem toList_toString_int (n : Int) :
    (toString n).toList =
      if n < 0 then '-' :: Nat.toDigits 10 n.natAbs else Nat.toDigits 10 n.natAbs := by
  cases n with
  | ofNat m =>
    have same : toString (Int.ofNat m) = toString m := rfl
    rw [same, Nat.toString_eq_ofList_toDigits, String.toList_ofList]
    simp
  | negSucc m =>
    have same : toString (Int.negSucc m) = "-" ++ toString (m + 1) := rfl
    rw [same, String.toList_append, Nat.toString_eq_ofList_toDigits, String.toList_ofList]
    simp

end SqlBatch
