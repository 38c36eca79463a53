import SqlBatch.Calendar.Date

/-!
# Written dates and timestamps

Dates are written `2024-01-31` and timestamps `2024-01-31 08:30:00.250`. A year outside 0 to 9999
carries a sign, and a fraction has as many groups of three digits as it needs.
-/
namespace SqlBatch

/-- The decimal digits of a number, with zeros in front up to the width. -/
def paddedDigits (width n : Nat) : List Char :=
  let digits := Nat.toDigits 10 n
  List.replicate (width - digits.length) '0' ++ digits

namespace Date

def yearChars (year : Int) : List Char :=
  if year < 0 then '-' :: paddedDigits 4 year.natAbs
  else if 9999 < year then '+' :: paddedDigits 4 year.natAbs
  else paddedDigits 4 year.natAbs

def chars (d : Date) : List Char :=
  yearChars d.year ++ '-' :: paddedDigits 2 d.month ++ '-' :: paddedDigits 2 d.day

def text (d : Date) : String := String.ofList d.chars

end Date

namespace TimeOfDay

def fractionChars (nanoseconds : Nat) : List Char :=
  if nanoseconds = 0 then []
  else if nanoseconds % 1000000 = 0 then '.' :: paddedDigits 3 (nanoseconds / 1000000)
  else if nanoseconds % 1000 = 0 then '.' :: paddedDigits 6 (nanoseconds / 1000)
  else '.' :: paddedDigits 9 nanoseconds

def chars (t : TimeOfDay) : List Char :=
  paddedDigits 2 t.hour ++ ':' :: paddedDigits 2 t.minute ++
    ':' :: paddedDigits 2 t.shownSecond ++ fractionChars t.shownFraction

end TimeOfDay

namespace Timestamp

def chars (t : Timestamp) : List Char := t.date.chars ++ ' ' :: t.time.chars

def text (t : Timestamp) : String := String.ofList t.chars

end Timestamp
end SqlBatch
