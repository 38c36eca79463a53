import Mathlib.Data.List.Basic
import SqlBatch.Dialect.Sqlite
import SqlBatch.Proofs.Text.Digits
import SqlBatch.Proofs.Text.Lexer

/-!
# Names, literals and types read back

Quoted names and strings end outside of their quotes, whatever they hold. Numerals, dates and the
names of types have nothing in them that the lexer could take for anything else.
-/
namespace SqlBatch

open Scan

variable {style : QuoteStyle}

/-! ### Names and strings -/

theorem reads_singleQuoted (s : String) (depth : Nat) :
    Reads style.pair (Clear depth) (singleQuoted s).toList (Free style.pair depth) := by
  rw [singleQuoted, String.toList_ofList]
  exact reads_quoted (.inl ⟨rfl, rfl⟩) depth s.toList

theorem reads_quotePart (part : List Char) (depth : Nat) :
    Reads style.pair (Clear depth) (Identifier.quotePart style.pair part)
      (Free style.pair depth) := by
  unfold Identifier.quotePart
  split
  · rename_i asterisk
    subst asterisk
    have plain : openBehind QuoteStyle.isPlain 0 ['*'] = some 0 := by decide
    exact (reads_openBehind (fun _ holds => QuoteStyle.isPlain_pair holds style) plain depth).toFree
  · exact reads_quoted (.inr ⟨by cases style <;> decide, rfl, rfl⟩) depth part

/-- By induction over the parts, with a dot between each two. -/
theorem reads_identifier (name : String) (depth : Nat) :
    Reads style.pair (Clear depth) (Identifier.quote (some style.pair) name).toList
      (Free style.pair depth) := by
  have dot : Turns style 0 0 "." := turns_fixed (by decide)
  have parts : ∀ parts : List (List Char), Reads style.pair (Clear depth)
      (List.intercalate ['.'] (parts.map (Identifier.quotePart style.pair)))
      (Free style.pair depth) := by
    intro parts
    induction parts with
    | nil => exact (Reads.nil _ _).toFree
    | cons part rest ih =>
      cases rest with
      | nil =>
        rw [List.map_singleton, List.intercalate_singleton]
        exact reads_quotePart part depth
      | cons second others =>
        rw [List.map_cons, List.map_cons, List.intercalate_cons_cons]
        exact ((reads_quotePart part depth).append (dot depth)).append ih
  rw [Identifier.quote, String.toList_ofList]
  exact parts _

/-! ### Numerals -/

/-- Digits and what stands between them in numerals and dates. -/
def IsNumeric (text : List Char) : Prop :=
  ∀ c ∈ text, c.isDigit = true ∨ c ∈ ['+', '-', '.', ':', ' ', 'e']

theorem IsNumeric.isWord {s : String} (numeric : IsNumeric s.toList) : IsWord style.pair s := by
  intro c member
  rcases numeric c member with digit | mark
  · have other : ∀ special : Char, special.isDigit = false → c ≠ special :=
      fun _ => ne_of_isDigit digit
    refine isPlain_iff.mpr ⟨other _ rfl, ?_, ?_, other _ rfl, other _ rfl, other _ rfl⟩
    · cases style <;> exact other _ rfl
    · cases style <;> exact other _ rfl
  · have plain : ['+', '-', '.', ':', ' ', 'e'].all QuoteStyle.isPlain = true := by decide
    exact QuoteStyle.isPlain_pair (List.all_eq_true.mp plain c mark) style

theorem IsWord.append {s t : String} (first : IsWord style.pair s) (second : IsWord style.pair t) :
    IsWord style.pair (s ++ t) := by
  intro c member
  rw [String.toList_append, List.mem_append] at member
  exact member.elim (first c) (second c)

theorem isWord_intercalate {separator : String} (between : IsWord style.pair separator)
    {words : List String} (each : ∀ w ∈ words, IsWord style.pair w) :
    IsWord style.pair (separator.intercalate words) := by
  induction words with
  | nil => exact fun c member => absurd member (by simp)
  | cons first rest ih =>
    have now := each first List.mem_cons_self
    have later := ih fun w member => each w (List.mem_cons_of_mem _ member)
    cases rest with
    | nil => rwa [String.intercalate_singleton]
    | cons second others =>
      rw [String.intercalate_cons_cons]
      exact (now.append between).append later

theorem isWord_fixed {s : String} (h : s.toList.all QuoteStyle.isPlain = true) :
    IsWord style.pair s := fun c member =>
  QuoteStyle.isPlain_pair (List.all_eq_true.mp h c member) style

namespace IsNumeric

theorem append {first second : List Char} (left : IsNumeric first) (right : IsNumeric second) :
    IsNumeric (first ++ second) := fun c member =>
  (List.mem_append.mp member).elim (left c) (right c)

theorem cons {c : Char} {rest : List Char} (mark : c ∈ ['+', '-', '.', ':', ' ', 'e'])
    (later : IsNumeric rest) : IsNumeric (c :: rest) := by
  intro d member
  rcases List.mem_cons.mp member with rfl | inside
  · exact .inr mark
  · exact later d inside

theorem subset {text part : List Char} (numeric : IsNumeric text) (inside : part ⊆ text) :
    IsNumeric part := fun c member => numeric c (inside member)

theorem toDigits (n : Nat) : IsNumeric (Nat.toDigits 10 n) := fun _ member =>
  .inl (isDigit_toDigits member)

theorem zeros (count : Nat) : IsNumeric (List.replicate count '0') := fun c member =>
  .inl (by rw [List.eq_of_mem_replicate member]; rfl)

end IsNumeric

theorem isNumeric_nat (n : Nat) : IsNumeric (toString n).toList := by
  rw [Nat.toString_eq_ofList_toDigits, String.toList_ofList]
  exact .toDigits n

theorem isNumeric_int (n : Int) : IsNumeric (toString n).toList := by
  rw [toList_toString_int]
  split
  · exact .cons (by decide) (.toDigits _)
  · exact .toDigits _

namespace Decimal

theorem isNumeric_positional (x : Decimal) : IsNumeric x.positional := by
  have digits := IsNumeric.toDigits x.digits
  have point : IsNumeric ['.'] := .cons (by decide) (by simp [IsNumeric])
  have zero : IsNumeric ['0'] := .zeros 1
  unfold positional
  dsimp only
  split
  · exact (digits.append (.zeros _)).append (point.append zero)
  · split
    · exact (digits.subset (List.take_subset _ _)).append
        (.cons (by decide) (digits.subset (List.drop_subset _ _)))
    · exact ((zero.append point).append (.zeros _)).append digits

theorem isNumeric_scientific (x : Decimal) : IsNumeric x.scientific := by
  have digits := IsNumeric.toDigits x.digits
  have rest := digits.subset (List.drop_subset 1 _)
  unfold scientific
  refine ((digits.subset (List.take_subset 1 _)).append ?_).append
    (.cons (by decide) (isNumeric_int _))
  split
  · simp [IsNumeric]
  · exact .cons (by decide) rest

theorem isNumeric_numeral (x : Decimal) : IsNumeric x.numeral := by
  unfold numeral
  dsimp only
  split
  · exact x.isNumeric_positional
  · exact x.isNumeric_scientific

end Decimal

theorem isWord_numeral (x : Binary64) : IsWord style.pair x.numeral := by
  unfold Binary64.numeral
  split
  · exact isWord_fixed (by decide)
  · have sign : IsWord style.pair (if x.negative then "-" else "") := by
      split <;> exact isWord_fixed (by decide)
    dsimp only
    split
    · exact sign.append (isWord_fixed (by decide))
    · split
      · exact sign.append (isWord_fixed (by decide))
      · refine sign.append (IsNumeric.isWord ?_)
        rw [String.toList_ofList]
        exact x.shortest.isNumeric_numeral

/-! ### Dates -/

theorem isNumeric_paddedDigits (width n : Nat) : IsNumeric (paddedDigits width n) :=
  (IsNumeric.zeros _).append (.toDigits n)

theorem Date.isNumeric_chars (d : Date) : IsNumeric d.chars := by
  have digits := isNumeric_paddedDigits
  have year : IsNumeric (yearChars d.year) := by
    unfold yearChars
    split
    · exact .cons (by decide) (digits 4 _)
    · split
      · exact .cons (by decide) (digits 4 _)
      · exact digits 4 _
  exact (year.append (.cons (by decide) (digits 2 _))).append (.cons (by decide) (digits 2 _))

theorem TimeOfDay.isNumeric_chars (t : TimeOfDay) : IsNumeric t.chars := by
  have digits := isNumeric_paddedDigits
  have fraction : IsNumeric (fractionChars t.shownFraction) := by
    unfold fractionChars
    split
    · simp [IsNumeric]
    · split
      · exact .cons (by decide) (digits 3 _)
      · split
        · exact .cons (by decide) (digits 6 _)
        · exact .cons (by decide) (digits 9 _)
  have minutes : IsNumeric (paddedDigits 2 t.hour ++ ':' :: paddedDigits 2 t.minute) :=
    (digits 2 t.hour).append (.cons (by decide) (digits 2 t.minute))
  exact (minutes.append (.cons (by decide) (digits 2 _))).append fraction

theorem Timestamp.isNumeric_chars (t : Timestamp) : IsNumeric t.chars :=
  t.date.isNumeric_chars.append (.cons (by decide) t.time.isNumeric_chars)

theorem IsNumeric.doubled {text : List Char} (numeric : IsNumeric text) :
    SqlBatch.doubled '\'' text = text := by
  induction text with
  | nil => rfl
  | cons c rest ih =>
    have other : c ≠ '\'' := by
      rintro rfl
      exact absurd (numeric _ List.mem_cons_self) (by decide)
    rw [SqlBatch.doubled, if_neg other, ih (numeric.subset (List.subset_cons_self c rest))]

/-- A date between single quotes, behind a keyword that can be missing. -/
theorem reads_dated {keyword : String} (word : IsWord style.pair keyword) {text : List Char}
    (numeric : IsNumeric text) (depth : Nat) :
    Reads style.pair (Clear depth) (keyword ++ "'" ++ String.ofList text ++ "'").toList
      (Free style.pair depth) := by
  have quoted : (keyword ++ "'" ++ String.ofList text ++ "'").toList =
      keyword.toList ++ ('\'' :: doubled '\'' text ++ ['\'']) := by
    rw [numeric.doubled]
    simp
  rw [quoted]
  exact (reads_word word depth).append (reads_quoted (.inl ⟨rfl, rfl⟩) depth text)

/-! ### Types -/

/-- The names of engine-specific types come from outside. -/
def DataType.IsTame (q : QuotePair) : DataType → Prop
  | .custom name => IsWord q name
  | _ => True

theorem DataType.reads_sql {t : DataType} (tame : t.IsTame style.pair) (depth : Nat) :
    Reads style.pair (Clear depth) t.sql.toList (Clear depth) := by
  have fixed : ∀ s : String, s.toList.all QuoteStyle.isPlain = true →
      Reads style.pair (Clear depth) s.toList (Clear depth) :=
    fun s h => reads_word (isWord_fixed h) depth
  have opens : Turns style 0 1 "(" := turns_fixed (by decide)
  have closes : Turns style 1 0 ")" := turns_fixed (by decide)
  have sized : ∀ (name : String) (length : Option UInt32),
      name.toList.all QuoteStyle.isPlain = true →
      Reads style.pair (Clear depth) (DataType.sized name length).toList (Clear depth) := by
    intro name length plain
    cases length with
    | none => exact fixed name plain
    | some length =>
      have size := (opens.word (isNumeric_nat length.toNat).isWord).append closes depth
      have whole := (fixed name plain).append size.fromClear
      rwa [← String.toList_append, ← String.append_assoc, ← String.append_assoc] at whole
  cases t with
  | decimal precision scale =>
    have opens : Turns style 0 1 "DECIMAL(" := turns_fixed (by decide)
    have comma : Turns style 1 1 ", " := turns_fixed (by decide)
    cases precision with
    | none => exact fixed "DECIMAL" (by decide)
    | some precision =>
      have first := opens.word (isNumeric_nat precision.toNat).isWord
      cases scale with
      | none => exact (first.append closes depth).fromClear
      | some scale =>
        have both := (first.append comma).word (isNumeric_nat scale.toNat).isWord
        exact (both.append closes depth).fromClear
  | char length => exact sized "CHAR" length (by decide)
  | varchar length => exact sized "VARCHAR" length (by decide)
  | varbinary length => exact sized "VARBINARY" length (by decide)
  | custom name => exact reads_word tame depth
  | _ => exact fixed _ (by decide)

theorem DataType.reads_storageClass {t : DataType} (tame : t.IsTame style.pair) (depth : Nat) :
    Reads style.pair (Clear depth) t.storageClass.toList (Clear depth) := by
  refine reads_word ?_ depth
  cases t with
  | custom name => exact tame
  | _ =>
    simp only [storageClass]
    exact isWord_fixed (by decide)

end SqlBatch
