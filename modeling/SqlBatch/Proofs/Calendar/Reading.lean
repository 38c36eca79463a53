import Mathlib.Algebra.Ring.Nat
import SqlBatch.Calendar.Reading
import SqlBatch.Proofs.Text.Digits

/-!
# Dates and timestamps read back

Every field of a written date is as wide as its reader takes it, and something else than a digit
stands behind it. So each reader comes out where its field ends, with the number that was written.
Only a leap second in the middle of a minute is written like another time.
-/
namespace SqlBatch

/-- A leap second comes at the end of a minute. -/
def TimeOfDay.LeapsLast (t : TimeOfDay) : Prop := 1000000000 ≤ t.nanosecond → t.second = 59

/-! ### Numbers with zeros in front -/

theorem isDigit_paddedDigits {width n : Nat} {c : Char} (member : c ∈ paddedDigits width n) :
    c.isDigit = true := by
  rcases List.mem_append.mp member with zero | digit
  · rw [List.eq_of_mem_replicate zero]
    rfl
  · exact isDigit_toDigits digit

theorem length_paddedDigits {width n : Nat} (positive : 0 < width) (small : n < 10 ^ width) :
    (paddedDigits width n).length = width := by
  have short := (Nat.length_toDigits_le_iff (by decide) positive).mpr small
  simp only [paddedDigits, List.length_append, List.length_replicate]
  omega

/-- Numbers begin with a digit. -/
theorem exists_paddedDigits (width n : Nat) :
    ∃ c rest, paddedDigits width n = c :: rest ∧ c.isDigit = true := by
  have filled : paddedDigits width n ≠ [] := by simp [paddedDigits]
  obtain ⟨c, rest, digits⟩ := List.exists_cons_of_ne_nil filled
  exact ⟨c, rest, digits, isDigit_paddedDigits (digits ▸ List.mem_cons_self)⟩

namespace CalendarText

theorem digitsValue_paddedDigits (width n : Nat) : digitsValue (paddedDigits width n) = n := by
  change Nat.ofDigitChars 10 (paddedDigits width n) 0 = n
  rw [paddedDigits, Nat.ofDigitChars_append, Nat.ofDigitChars_replicate_zero, Nat.mul_zero,
    Nat.ofDigitChars_ten_toDigits]

theorem skipBlanks_of_solid {c : Char} (solid : isBlank c = false) (rest : List Char) :
    skipBlanks (c :: rest) = c :: rest := by
  simp [skipBlanks, solid]

theorem isBlank_of_isDigit {c : Char} (digit : c.isDigit = true) : isBlank c = false := by
  obtain ⟨low, high⟩ := bounds_of_isDigit digit
  simp only [isBlank, Bool.or_eq_false_iff, Bool.and_eq_false_iff, decide_eq_false_iff_not]
  omega

variable {rest : List Char}

theorem skipBlanks_paddedDigits (width n : Nat) (rest : List Char) :
    skipBlanks (paddedDigits width n ++ rest) = paddedDigits width n ++ rest := by
  obtain ⟨c, more, digits, digit⟩ := exists_paddedDigits width n
  rw [digits, List.cons_append, skipBlanks_of_solid (isBlank_of_isDigit digit)]

/-! ### Fields -/

theorem number_paddedDigits {width : Option Nat} {pad n : Nat} (ends : EndsRun rest)
    (fits : ∀ w ∈ width, (paddedDigits pad n).length ≤ w) (small : n ≤ 9223372036854775807) :
    number width (paddedDigits pad n ++ rest) = .ok (n, rest) := by
  have run : (paddedDigits pad n ++ rest).takeWhile Char.isDigit = paddedDigits pad n :=
    takeWhile_digits (fun _ => isDigit_paddedDigits) ends
  have filled : paddedDigits pad n ≠ [] := by
    obtain ⟨c, more, digits, -⟩ := exists_paddedDigits pad n
    rw [digits]
    exact List.cons_ne_nil _ _
  cases width with
  | none => simp [number, run, filled, digitsValue_paddedDigits, small]
  | some width =>
    have counted := List.take_of_length_le (fits width rfl)
    simp [number, run, counted, filled, digitsValue_paddedDigits, small]

theorem field_paddedDigits {low high n : Nat} (ends : EndsRun rest) (least : low ≤ n)
    (most : n ≤ high) (narrow : high < 100) :
    field low high (paddedDigits 2 n ++ rest) = .ok (n, rest) := by
  have width : (paddedDigits 2 n).length = 2 := length_paddedDigits (by decide) (by omega)
  have read : number (some 2) (paddedDigits 2 n ++ rest) = .ok (n, rest) :=
    number_paddedDigits ends (by simp [width]) (by omega)
  rw [field, skipBlanks_paddedDigits, read]
  exact if_pos ⟨least, most⟩

theorem year_yearChars {y : Int} (ends : EndsRun rest) (least : -262143 ≤ y) (most : y ≤ 262142) :
    year (Date.yearChars y ++ rest) = .ok (y, rest) := by
  have within : -2147483648 ≤ y ∧ y ≤ 2147483647 := by omega
  have signed : number none (paddedDigits 4 y.natAbs ++ rest) = .ok (y.natAbs, rest) :=
    number_paddedDigits ends nofun (by omega)
  unfold Date.yearChars
  split
  · rename_i negative
    have value : -(y.natAbs : Int) = y := by omega
    rw [List.cons_append, year, skipBlanks_of_solid rfl]
    simp only [signed, Except.map, value]
    exact if_pos within
  · rename_i positive
    have value : (y.natAbs : Int) = y := by omega
    split
    · rw [List.cons_append, year, skipBlanks_of_solid rfl]
      simp only [signed, Except.map, value]
      exact if_pos within
    · rename_i small
      have width : (paddedDigits 4 y.natAbs).length = 4 := length_paddedDigits (by decide) (by omega)
      have unsigned : number (some 4) (paddedDigits 4 y.natAbs ++ rest) = .ok (y.natAbs, rest) :=
        number_paddedDigits ends (by simp [width]) (by omega)
      obtain ⟨c, more, digits, digit⟩ := exists_paddedDigits 4 y.natAbs
      have starts : ∀ {mark others}, paddedDigits 4 y.natAbs ++ rest = mark :: others →
          mark.isDigit = true := by
        intro mark others same
        rw [digits] at same
        exact (List.cons.inj same).1 ▸ digit
      rw [year, skipBlanks_paddedDigits]
      split
      · rename_i same
        exact absurd (starts same) (by decide)
      · rename_i same
        exact absurd (starts same) (by decide)
      · simp only [unsigned, Except.map, value]
        exact if_pos within

/-- A fraction of one, two or three groups of three digits. -/
theorem fraction_digits {width n : Nat} (positive : 0 < width) (most : width ≤ 9)
    (small : n < 10 ^ width) :
    fraction ('.' :: paddedDigits width n) = .ok (n * 10 ^ (9 - width), []) := by
  have length := length_paddedDigits positive small
  have bound : 10 ^ width ≤ 10 ^ 9 := Nat.pow_le_pow_right (by decide) most
  have read : number (some 9) (paddedDigits width n ++ []) = .ok (n, []) :=
    number_paddedDigits endsRun_nil (by simpa [length] using most) (by omega)
  have run : (paddedDigits width n ++ []).takeWhile Char.isDigit = paddedDigits width n :=
    takeWhile_digits (fun _ => isDigit_paddedDigits) endsRun_nil
  rw [List.append_nil] at read run
  have consumed : (paddedDigits width n).drop width = [] := List.drop_eq_nil_of_le (Nat.le_of_eq length)
  rw [fraction, read]
  simp only [run, length, bind, Except.bind, consumed, Nat.pow_eq]

theorem fraction_fractionChars {n : Nat} (small : n < 1000000000) :
    fraction (TimeOfDay.fractionChars n) = .ok (n, []) := by
  unfold TimeOfDay.fractionChars
  split
  · rename_i none
    subst none
    rfl
  · split
    · rename_i whole
      rw [fraction_digits (by decide) (by decide) (by omega)]
      congr
      omega
    · split
      · rename_i whole
        rw [fraction_digits (by decide) (by decide) (by omega)]
        congr
        omega
      · rw [fraction_digits (by decide) (by decide) (by omega)]
        congr
        omega

/-! ### Whole texts -/

theorem daysInMonth_le (year : Int) (month : Nat) : daysInMonth year month ≤ 31 := by
  unfold daysInMonth
  split
  · split <;> decide
  · split <;> decide

theorem dateFields_chars (d : Date) (ends : EndsRun rest) :
    dateFields (d.chars ++ rest) = .ok (⟨d.year, d.month, d.day⟩, rest) := by
  obtain ⟨least, most, january, december, first, last⟩ := d.real
  have final : d.day ≤ 31 := Nat.le_trans last (daysInMonth_le d.year d.month)
  let day := paddedDigits 2 d.day ++ rest
  let month := paddedDigits 2 d.month ++ '-' :: day
  have readYear : year (Date.yearChars d.year ++ '-' :: month) = .ok (d.year, '-' :: month) :=
    year_yearChars (endsRun_cons rfl month) least most
  have readMonth : field 1 12 month = .ok (d.month, '-' :: day) :=
    field_paddedDigits (endsRun_cons rfl day) january december (by decide)
  have readDay : field 1 31 day = .ok (d.day, rest) :=
    field_paddedDigits ends first final (by decide)
  have fields : d.chars ++ rest = Date.yearChars d.year ++ '-' :: month := by
    simp [Date.chars, month, day]
  rw [fields]
  simp only [dateFields, readYear, readMonth, readDay, mark, if_pos, bind, Except.bind]

theorem date_fields (d : Date) : DateFields.date ⟨d.year, d.month, d.day⟩ = .ok d := by
  have found : Date.of? d.year d.month d.day = some d := dif_pos d.real
  rw [DateFields.date, found]

theorem shownSecond_le (t : TimeOfDay) : t.shownSecond ≤ 60 := by
  obtain ⟨-, -, second, nanosecond⟩ := t.real
  unfold TimeOfDay.shownSecond
  omega

theorem endsRun_fractionChars (n : Nat) : EndsRun (TimeOfDay.fractionChars n) := by
  unfold TimeOfDay.fractionChars
  split
  · exact endsRun_nil
  · split
    · exact endsRun_cons rfl _
    · split <;> exact endsRun_cons rfl _

theorem timeFields_chars (t : TimeOfDay) :
    timeFields t.chars = .ok (⟨t.hour, t.minute, t.shownSecond, t.shownFraction⟩, []) := by
  obtain ⟨hours, minutes, -⟩ := t.real
  let second := paddedDigits 2 t.shownSecond ++ TimeOfDay.fractionChars t.shownFraction
  let minute := paddedDigits 2 t.minute ++ ':' :: second
  have readHour : field 0 23 (paddedDigits 2 t.hour ++ ':' :: minute) = .ok (t.hour, ':' :: minute) :=
    field_paddedDigits (endsRun_cons rfl minute) (Nat.zero_le _) (by omega) (by decide)
  have readMinute : field 0 59 minute = .ok (t.minute, ':' :: second) :=
    field_paddedDigits (endsRun_cons rfl second) (Nat.zero_le _) (by omega) (by decide)
  have readSecond : field 0 60 second =
      .ok (t.shownSecond, TimeOfDay.fractionChars t.shownFraction) :=
    field_paddedDigits (endsRun_fractionChars _) (Nat.zero_le _) (shownSecond_le t) (by decide)
  have readFraction := fraction_fractionChars (n := t.shownFraction) (Nat.mod_lt _ (by decide))
  have fields : t.chars = paddedDigits 2 t.hour ++ ':' :: minute := by
    simp [TimeOfDay.chars, minute, second]
  rw [fields]
  simp only [timeFields, readHour, readMinute, readSecond, readFraction, mark, if_pos, bind,
    Except.bind]

/-- A leap second is shown as the second behind it; only second 60 is read as one. -/
theorem time_fields_iff (t : TimeOfDay) :
    TimeFields.time ⟨t.hour, t.minute, t.shownSecond, t.shownFraction⟩ = .ok t ↔ t.LeapsLast := by
  have found : TimeOfDay.of? t.hour t.minute t.second t.nanosecond = some t := dif_pos t.real
  obtain ⟨hour, minute, second, nanosecond⟩ := t.real
  by_cases leap : 1000000000 ≤ t.nanosecond
  · have shown : t.shownSecond = t.second + 1 := by
      unfold TimeOfDay.shownSecond
      omega
    have fraction : t.shownFraction + 1000000000 = t.nanosecond := by
      unfold TimeOfDay.shownFraction
      omega
    by_cases last : t.second = 59
    · rw [last] at found
      simp only [TimeFields.time, shown, last, if_pos, fraction, found, TimeOfDay.LeapsLast,
        implies_true]
    · have inner : t.second + 1 ≠ 60 := by omega
      have real : TimeOfDay.Exists t.hour t.minute (t.second + 1) t.shownFraction :=
        ⟨hour, minute, by omega, by omega⟩
      have other : TimeOfDay.of? t.hour t.minute (t.second + 1) t.shownFraction =
          some ⟨_, _, _, _, real⟩ := dif_pos real
      simp only [TimeFields.time, shown, if_neg inner, other]
      refine ⟨fun same => ?_, fun leaps => (last (leaps leap)).elim⟩
      have later : t.second + 1 = t.second := congrArg TimeOfDay.second (Except.ok.inj same)
      omega
  · have shown : t.shownSecond = t.second := by
      unfold TimeOfDay.shownSecond
      omega
    have fraction : t.shownFraction = t.nanosecond := Nat.mod_eq_of_lt (by omega)
    have ordinary : t.second ≠ 60 := by omega
    simp only [TimeFields.time, shown, fraction, if_neg ordinary, found, TimeOfDay.LeapsLast, leap,
      false_implies]

theorem skipBlanks_chars (t : TimeOfDay) : skipBlanks (' ' :: t.chars) = t.chars := by
  have solid : skipBlanks t.chars = t.chars := by
    have behind := skipBlanks_paddedDigits 2 t.hour
    simp only [TimeOfDay.chars, List.append_assoc, List.cons_append, behind]
  rw [skipBlanks, List.dropWhile_cons_of_pos rfl]
  exact solid

end CalendarText

/-! ### Whole texts -/

open CalendarText

theorem Date.read_text (d : Date) : Date.read d.text = .ok d := by
  have fields := dateFields_chars d endsRun_nil
  rw [List.append_nil] at fields
  rw [Date.read, Date.text, String.toList_ofList, fields]
  exact date_fields d

theorem Timestamp.read_text_iff (t : Timestamp) :
    Timestamp.read t.text = .ok t ↔ t.time.LeapsLast := by
  have day := dateFields_chars t.date (endsRun_cons (c := ' ') rfl t.time.chars)
  have time := timeFields_chars t.time
  rw [← time_fields_iff, Timestamp.read, Timestamp.text, String.toList_ofList, Timestamp.chars, day]
  simp only [bind, Except.bind, skipBlanks_chars, time, atEnd, date_fields]
  rcases TimeFields.time ⟨t.time.hour, t.time.minute, t.time.shownSecond, t.time.shownFraction⟩ with
    e | read
  · exact ⟨nofun, nofun⟩
  · rcases t with ⟨date, time⟩
    simp

end SqlBatch
