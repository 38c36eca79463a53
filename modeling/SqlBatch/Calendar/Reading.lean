import SqlBatch.Calendar.Text

/-!
# Reading dates and timestamps

The fields are matched from left to right; each number may have blanks in front and fewer digits
than its written form. What is read must then be a day that exists.
-/
namespace SqlBatch

/-- Why a text is no date or timestamp. -/
inductive CalendarFault
  | tooShort
  | unexpectedCharacter
  | outOfRange
  | trailingText
  deriving DecidableEq

def CalendarFault.message : CalendarFault → String
  | tooShort => "premature end of input"
  | unexpectedCharacter => "input contains invalid characters"
  | outOfRange => "input is out of range"
  | trailingText => "trailing input"

namespace CalendarText

/-- The characters with the White_Space property. -/
def isBlank (c : Char) : Bool :=
  let n := c.toNat
  (9 ≤ n && n ≤ 13) || n = 0x20 || n = 0x85 || n = 0xa0 || n = 0x1680 ||
    (0x2000 ≤ n && n ≤ 0x200a) || n = 0x2028 || n = 0x2029 || n = 0x202f || n = 0x205f || n = 0x3000

def skipBlanks (input : List Char) : List Char := input.dropWhile isBlank

def digitsValue (digits : List Char) : Nat :=
  digits.foldl (fun value c => 10 * value + (c.toNat - 48)) 0

/-- One or more digits, at most `width` of them when a width is given. -/
def number (width : Option Nat) (input : List Char) : Except CalendarFault (Nat × List Char) :=
  let run := input.takeWhile Char.isDigit
  let digits := match width with
    | some width => run.take width
    | none => run
  if input.isEmpty then .error .tooShort
  else if digits.isEmpty then .error .unexpectedCharacter
  else if 9223372036854775807 < digitsValue digits then .error .outOfRange
  else .ok (digitsValue digits, input.drop digits.length)

/-- A field of at most two digits whose value lies between two bounds. -/
def field (low high : Nat) (input : List Char) : Except CalendarFault (Nat × List Char) := do
  let (value, rest) ← number (some 2) (skipBlanks input)
  if low ≤ value ∧ value ≤ high then .ok (value, rest) else .error .outOfRange

/-- Four digits at most, or any number of them after a sign. -/
def year (input : List Char) : Except CalendarFault (Int × List Char) := do
  let (value, rest) ← match skipBlanks input with
    | '-' :: rest => (number none rest).map fun (value, rest) => (-(value : Int), rest)
    | '+' :: rest => (number none rest).map fun (value, rest) => ((value : Int), rest)
    | rest => (number (some 4) rest).map fun (value, rest) => ((value : Int), rest)
  if -2147483648 ≤ value ∧ value ≤ 2147483647 then .ok (value, rest) else .error .outOfRange

def mark (c : Char) : List Char → Except CalendarFault (List Char)
  | [] => .error .tooShort
  | d :: rest => if d = c then .ok rest else .error .unexpectedCharacter

/-- Nine digits of a fraction count and further ones are passed over. -/
def fraction : List Char → Except CalendarFault (Nat × List Char)
  | '.' :: input => do
    let (value, _) ← number (some 9) input
    let run := input.takeWhile Char.isDigit
    .ok (value * Nat.pow 10 (9 - run.length), input.drop run.length)
  | input => .ok (0, input)

def atEnd : List Char → Except CalendarFault Unit
  | [] => .ok ()
  | _ => .error .trailingText

/-! ### Whole texts -/

structure DateFields where
  year : Int
  month : Nat
  day : Nat

def dateFields (input : List Char) : Except CalendarFault (DateFields × List Char) := do
  let (year, rest) ← year input
  let rest ← mark '-' rest
  let (month, rest) ← field 1 12 rest
  let rest ← mark '-' rest
  let (day, rest) ← field 1 31 rest
  .ok (⟨year, month, day⟩, rest)

structure TimeFields where
  hour : Nat
  minute : Nat
  second : Nat
  nanosecond : Nat

def timeFields (input : List Char) : Except CalendarFault (TimeFields × List Char) := do
  let (hour, rest) ← field 0 23 input
  let rest ← mark ':' rest
  let (minute, rest) ← field 0 59 rest
  let rest ← mark ':' rest
  let (second, rest) ← field 0 60 rest
  let (nanosecond, rest) ← fraction rest
  .ok (⟨hour, minute, second, nanosecond⟩, rest)

def DateFields.date (fields : DateFields) : Except CalendarFault Date :=
  match Date.of? fields.year fields.month fields.day with
  | some date => .ok date
  | none => .error .outOfRange

/-- Second 60 is the leap second after second 59. -/
def TimeFields.time (fields : TimeFields) : Except CalendarFault TimeOfDay :=
  let time := if fields.second = 60 then
      TimeOfDay.of? fields.hour fields.minute 59 (fields.nanosecond + 1000000000)
    else TimeOfDay.of? fields.hour fields.minute fields.second fields.nanosecond
  match time with
  | some time => .ok time
  | none => .error .outOfRange

end CalendarText

def Date.read (text : String) : Except CalendarFault Date := do
  let (fields, rest) ← CalendarText.dateFields text.toList
  CalendarText.atEnd rest
  fields.date

/-- Any amount of blanks, none included, separates the day from the time. -/
def Timestamp.read (text : String) : Except CalendarFault Timestamp := do
  let (day, rest) ← CalendarText.dateFields text.toList
  let (time, rest) ← CalendarText.timeFields (CalendarText.skipBlanks rest)
  CalendarText.atEnd rest
  .ok ⟨← day.date, ← time.time⟩

end SqlBatch
