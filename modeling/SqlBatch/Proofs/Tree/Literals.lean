import SqlBatch.Proofs.Calendar.Reading
import SqlBatch.Proofs.Text.Comments
import SqlBatch.Proofs.Text.Literals
import SqlBatch.Proofs.Tree.Success
import SqlBatch.Store.Sqlite
import SqlBatch.Value.Host

/-!
# Constants as literals

Every constant is written as one literal of its own kind, floats apart that are infinite or no
numbers: those come out as words. The text in a date's quotes reads back as the date.
-/
namespace SqlBatch

/-! ### Kinds -/

namespace ShippedDialect

def booleans : ShippedDialect → BooleanLiterals
  | generic => .keywords
  | custom config => config.booleanLiterals
  | sqlite => .numeric

/-- What a dialect puts in front of a date or a timestamp. -/
def marking (keyword : List Char) : ShippedDialect → List Char
  | sqlite => []
  | _ => keyword

end ShippedDialect

/-- The number that the digits of a double show. -/
def Binary64.shown (x : Binary64) : ℚ := if x.isZero then 0 else x.shortest.value

/-- The literal is of the constant's kind and holds what the constant holds. -/
inductive Constant.WrittenAs (s : ShippedDialect) : Constant → Literal → Prop
  | null : WrittenAs s .null (.word "NULL".toList)
  | keyword (b : Bool) (words : s.booleans = .keywords) :
    WrittenAs s (.bool b) (.word (if b then "TRUE" else "FALSE").toList)
  | digit (b : Bool) (numeric : s.booleans = .numeric) :
    WrittenAs s (.bool b) (.numeral false ⟨b.toNat, true⟩)
  | int (n : Int64) : WrittenAs s (.int n) (.numeral (n.toInt < 0) ⟨n.toInt.natAbs, true⟩)
  | float (x : Binary64) : WrittenAs s (.float x) (.numeral x.negative ⟨x.shown, false⟩)
  | date (d : Date) : WrittenAs s (.date d) (.quoted (s.marking "DATE".toList) d.text.toList)
  | timestamp (t : Timestamp) :
    WrittenAs s (.timestamp t) (.quoted (s.marking "TIMESTAMP".toList) t.text.toList)
  | string (text : String) : WrittenAs s (.string text) (.quoted [] text.toList)

def Binary64.isFinite (x : Binary64) : Bool := !x.isNaN && !x.isInfinite

def Constant.isFinite : Constant → Bool
  | .float x => x.isFinite
  | _ => true

/-! ### Numbers -/

theorem Binary64.read?_magnitude {x : Binary64} (finite : x.isInfinite = false) :
    Numeral.read? x.magnitude = some ⟨x.shown, false⟩ := by
  unfold magnitude shown
  rw [finite, if_neg (by decide)]
  split
  · have zero : Numeral.read? "0.0".toList = some ⟨Decimal.value ⟨0, -1⟩, false⟩ := rfl
    rw [zero, Decimal.value, Nat.cast_zero, zero_mul]
  · exact x.shortest.read?_numeral

/-- What is no finite number is written as a word, with a sign or without one. -/
theorem Binary64.word_of_not_finite {x : Binary64} (infinite : x.isFinite = false) :
    x.numeral ∈ ["NaN", "inf", "-inf"] := by
  unfold isFinite at infinite
  unfold numeral
  cases none : x.isNaN with
  | true => simp
  | false =>
    have unbounded : x.isInfinite = true := by simpa [none] using infinite
    cases x.negative <;> simp [unbounded]

theorem Literal.read?_int (n : Int64) :
    Literal.read? (toString n).toList =
      some (.numeral (n.toInt < 0) ⟨n.toInt.natAbs, true⟩) := by
  have spelled : toString n = toString n.toInt := rfl
  have digits := Literal.read?_signed (n.toInt < 0) (Numeral.read?_toDigits n.toInt.natAbs)
  rw [spelled, toList_toString_int]
  simpa only [decide_eq_true_eq] using digits

theorem Literal.read?_float {x : Binary64} (finite : x.isFinite = true) :
    Literal.read? x.numeral.toList = some (.numeral x.negative ⟨x.shown, false⟩) := by
  obtain ⟨number, bounded⟩ : x.isNaN = false ∧ x.isInfinite = false := by
    simpa [Binary64.isFinite] using finite
  rw [Binary64.toList_numeral, number, if_neg (by decide)]
  exact Literal.read?_signed _ (Binary64.read?_magnitude bounded)

/-! ### Dates -/

/-- Something between quotes behind a keyword, if there is one. -/
def enquoted (keyword text : List Char) : List Char :=
  (if keyword = [] then [] else keyword ++ [' ']) ++ '\'' :: text ++ ['\'']

theorem Literal.read?_enquoted {keyword text : List Char}
    (letters : ∀ c ∈ keyword, c.isAlpha = true) (numeric : IsNumeric text) :
    Literal.read? (enquoted keyword text) = some (.quoted keyword text) := by
  unfold enquoted
  split
  · rename_i none
    subst none
    have read := readString_doubled [] text
    rwa [numeric.doubled] at read
  · rename_i filled
    have read := read?_keyword letters filled text
    rw [numeric.doubled] at read
    simpa using read

theorem ShippedDialect.isAlpha_marking {keyword : List Char} (s : ShippedDialect)
    (letters : ∀ c ∈ keyword, c.isAlpha = true) : ∀ c ∈ s.marking keyword, c.isAlpha = true := by
  cases s with
  | sqlite => exact nofun
  | generic | custom => exact letters

theorem ShippedDialect.toList_date (s : ShippedDialect) (d : Date) :
    (s.dialect.literal (.date d)).toList = enquoted (s.marking "DATE".toList) d.text.toList := by
  cases s with
  | sqlite => simp [dialect, Dialect.literal, Dialect.sqlite, enquoted, marking]
  | generic => simp [dialect, Dialect.literal, Dialect.generic, enquoted, marking]
  | custom => simp [dialect, Dialect.literal, Dialect.custom, enquoted, marking]

theorem ShippedDialect.toList_timestamp (s : ShippedDialect) (t : Timestamp) :
    (s.dialect.literal (.timestamp t)).toList =
      enquoted (s.marking "TIMESTAMP".toList) t.text.toList := by
  cases s with
  | sqlite => simp [dialect, Dialect.literal, Dialect.sqlite, enquoted, marking]
  | generic => simp [dialect, Dialect.literal, Dialect.generic, enquoted, marking]
  | custom => simp [dialect, Dialect.literal, Dialect.custom, enquoted, marking]

theorem ShippedDialect.read?_date (s : ShippedDialect) (d : Date) :
    Literal.read? (s.dialect.literal (.date d)).toList =
      some (.quoted (s.marking "DATE".toList) d.text.toList) := by
  have numeric : IsNumeric d.text.toList := by
    rw [Date.text, String.toList_ofList]
    exact d.isNumeric_chars
  rw [toList_date]
  exact Literal.read?_enquoted (s.isAlpha_marking (by simp)) numeric

theorem ShippedDialect.read?_timestamp (s : ShippedDialect) (t : Timestamp) :
    Literal.read? (s.dialect.literal (.timestamp t)).toList =
      some (.quoted (s.marking "TIMESTAMP".toList) t.text.toList) := by
  have numeric : IsNumeric t.text.toList := by
    rw [Timestamp.text, String.toList_ofList]
    exact t.isNumeric_chars
  rw [toList_timestamp]
  exact Literal.read?_enquoted (s.isAlpha_marking (by simp)) numeric

/-! ### Constants -/

theorem ShippedDialect.read?_bool (s : ShippedDialect) (b : Bool) :
    ∃ l, Literal.read? (s.dialect.literal (.bool b)).toList = some l ∧
      Constant.WrittenAs s (.bool b) l := by
  have word : ∀ b : Bool, Literal.read? (if b then "TRUE" else "FALSE").toList =
      some (.word (if b then "TRUE" else "FALSE").toList) := by
    rintro (_ | _) <;> rfl
  have digit : ∀ b : Bool, Literal.read? (numericBool b).toList =
      some (.numeral false ⟨b.toNat, true⟩) := by
    rintro (_ | _) <;> rfl
  cases s with
  | generic => exact ⟨_, word b, .keyword b rfl⟩
  | sqlite => exact ⟨_, digit b, .digit b rfl⟩
  | custom config =>
    cases spelling : config.booleanLiterals with
    | keywords =>
      refine ⟨_, ?_, .keyword b spelling⟩
      simpa [dialect, Dialect.literal, Dialect.custom, spelling] using word b
    | numeric =>
      refine ⟨_, ?_, .digit b spelling⟩
      simpa [dialect, Dialect.literal, Dialect.custom, spelling] using digit b

/-- None of the words for what is no finite number reads as a number. -/
theorem Literal.not_numeral_of_not_finite {x : Binary64} (infinite : x.isFinite = false)
    (negative : Bool) (n : Numeral) :
    Literal.read? x.numeral.toList ≠ some (.numeral negative n) := by
  have nan : Literal.read? "NaN".toList = some (.word "NaN".toList) := rfl
  have inf : Literal.read? "inf".toList = some (.word "inf".toList) := rfl
  have negated : Literal.read? "-inf".toList = none := rfl
  have word := Binary64.word_of_not_finite infinite
  simp only [List.mem_cons, List.not_mem_nil, or_false] at word
  rcases word with same | same | same
  · rw [same, nan]
    exact nofun
  · rw [same, inf]
    exact nofun
  · rw [same, negated]
    exact nofun

/-- A constant is written as one literal of its own kind, exactly if it is no float without a finite
value. -/
theorem written_as_own_kind_iff (s : ShippedDialect) (c : Constant) :
    (∃ l, Literal.read? (s.dialect.literal c).toList = some l ∧ c.WrittenAs s l) ↔
      c.isFinite = true := by
  constructor
  · rintro ⟨l, read, kind⟩
    cases kind with
    | float x =>
      by_contra infinite
      have none : x.isFinite = false := by simpa [Constant.isFinite] using infinite
      exact Literal.not_numeral_of_not_finite none _ _ read
    | _ => rfl
  · intro finite
    cases c with
    | null =>
      have word : Literal.read? "NULL".toList = some (.word "NULL".toList) := rfl
      exact ⟨_, word, .null⟩
    | bool b => exact s.read?_bool b
    | int n => exact ⟨_, Literal.read?_int n, .int n⟩
    | float x => exact ⟨_, Literal.read?_float finite, .float x⟩
    | date d => exact ⟨_, s.read?_date d, .date d⟩
    | timestamp t => exact ⟨_, s.read?_timestamp t, .timestamp t⟩
    | string text =>
      have spelled : s.dialect.literal (.string text) = singleQuoted text := by cases s <;> rfl
      exact ⟨_, spelled ▸ Literal.read?_singleQuoted text, .string text⟩

/-- Infinity is written as a name. -/
theorem infinity_written_as_name :
    Literal.read? (ShippedDialect.sqlite.dialect.literal (.float ⟨0x7ff0000000000000⟩)).toList =
        some (.word "inf".toList) ∧
      ¬∃ l, Literal.read? (ShippedDialect.sqlite.dialect.literal
          (.float ⟨0x7ff0000000000000⟩)).toList = some l ∧
        Constant.WrittenAs .sqlite (.float ⟨0x7ff0000000000000⟩) l := by
  have read : Literal.read? (ShippedDialect.sqlite.dialect.literal
      (.float ⟨0x7ff0000000000000⟩)).toList = some (.word "inf".toList) := rfl
  refine ⟨read, ?_⟩
  rintro ⟨l, found, kind⟩
  rw [read] at found
  cases found
  cases kind

/-! ### Dates read back -/

theorem Timestamp.fromSql_text_iff (t : Timestamp) :
    fromSql (.text t.text) = .ok t ↔ t.time.LeapsLast := by
  rw [← Timestamp.read_text_iff]
  change Except.mapError _ (Timestamp.read t.text) = .ok t ↔ _
  rcases Timestamp.read t.text with fault | read
  · exact ⟨nofun, nofun⟩
  · exact ⟨fun same => congrArg _ (Except.ok.inj same), fun same => congrArg _ (Except.ok.inj same)⟩

/-- What a date or a timestamp is written as between quotes is also what the store hands back for
it. It reads as the same day and time, but for a leap second in the middle of a minute. -/
theorem dates_read_back (s : ShippedDialect) :
    (∀ d : Date, ∃ keyword body,
      Literal.read? (s.dialect.literal (.date d)).toList = some (.quoted keyword body) ∧
        Sqlite.stored (.date d) = .text (String.ofList body) ∧
        fromSql (.text (String.ofList body)) = .ok d) ∧
    ∀ t : Timestamp, ∃ keyword body,
      Literal.read? (s.dialect.literal (.timestamp t)).toList = some (.quoted keyword body) ∧
        Sqlite.stored (.timestamp t) = .text (String.ofList body) ∧
        (fromSql (.text (String.ofList body)) = .ok t ↔ t.time.LeapsLast) := by
  constructor
  · intro d
    have read : fromSql (.text d.text) = .ok d := congrArg (Except.mapError _) (Date.read_text d)
    refine ⟨_, _, s.read?_date d, ?_, ?_⟩
    · rw [String.ofList_toList]
      rfl
    · rw [String.ofList_toList]
      exact read
  · intro t
    refine ⟨_, _, s.read?_timestamp t, ?_, ?_⟩
    · rw [String.ofList_toList]
      rfl
    · rw [String.ofList_toList]
      exact t.fromSql_text_iff

/-- A leap second behind second 4 is written as second 5, and reads as second 5. -/
theorem inner_leap_second_reads_otherwise :
    let day : Date := ⟨2015, 6, 30, by decide⟩
    let t : Timestamp := ⟨day, ⟨23, 56, 4, 1333333333, by decide⟩⟩
    let later : Timestamp := ⟨day, ⟨23, 56, 5, 333333333, by decide⟩⟩
    Literal.read? (ShippedDialect.sqlite.dialect.literal (.timestamp t)).toList =
        some (.quoted [] "2015-06-30 23:56:05.333333333".toList) ∧
      fromSql (.text "2015-06-30 23:56:05.333333333") = .ok later ∧ later ≠ t := by
  intro day t later
  have written : t.text = "2015-06-30 23:56:05.333333333" := by decide +kernel
  refine ⟨?_, by decide +kernel, by decide⟩
  rw [← written]
  exact ShippedDialect.sqlite.read?_timestamp t

end SqlBatch
