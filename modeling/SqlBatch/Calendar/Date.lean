/-!
# Calendar dates and timestamps

Days of the Gregorian calendar carried back and forth over all years from -262143 to 262142, and
times of day to the nanosecond. Only days and times that exist can be built.
-/
namespace SqlBatch

def isLeapYear (year : Int) : Bool :=
  year % 4 = 0 ∧ (year % 100 ≠ 0 ∨ year % 400 = 0)

def daysInMonth (year : Int) (month : Nat) : Nat :=
  if month = 2 then (if isLeapYear year then 29 else 28)
  else if month = 4 ∨ month = 6 ∨ month = 9 ∨ month = 11 then 30
  else 31

def Date.Exists (year : Int) (month day : Nat) : Prop :=
  -262143 ≤ year ∧ year ≤ 262142 ∧ 1 ≤ month ∧ month ≤ 12 ∧ 1 ≤ day ∧ day ≤ daysInMonth year month

instance (year : Int) (month day : Nat) : Decidable (Date.Exists year month day) := by
  unfold Date.Exists; infer_instance

structure Date where
  year : Int
  month : Nat
  day : Nat
  real : Date.Exists year month day
  deriving DecidableEq

def Date.of? (year : Int) (month day : Nat) : Option Date :=
  if real : Date.Exists year month day then some ⟨year, month, day, real⟩ else none

/-! ### Time of day -/

/-- A nanosecond count of a whole second or more stands for a leap second, which may come after any
second. -/
def TimeOfDay.Exists (hour minute second nanosecond : Nat) : Prop :=
  hour < 24 ∧ minute < 60 ∧ second < 60 ∧ nanosecond < 2000000000

instance (hour minute second nanosecond : Nat) :
    Decidable (TimeOfDay.Exists hour minute second nanosecond) := by
  unfold TimeOfDay.Exists; infer_instance

structure TimeOfDay where
  hour : Nat
  minute : Nat
  second : Nat
  nanosecond : Nat
  real : TimeOfDay.Exists hour minute second nanosecond
  deriving DecidableEq

namespace TimeOfDay

def of? (hour minute second nanosecond : Nat) : Option TimeOfDay :=
  if real : TimeOfDay.Exists hour minute second nanosecond then
    some ⟨hour, minute, second, nanosecond, real⟩
  else none

/-- The second as a clock shows it: one more during a leap second. -/
def shownSecond (t : TimeOfDay) : Nat := t.second + t.nanosecond / 1000000000

/-- The nanoseconds within the second that the clock shows. -/
def shownFraction (t : TimeOfDay) : Nat := t.nanosecond % 1000000000

end TimeOfDay

structure Timestamp where
  date : Date
  time : TimeOfDay
  deriving DecidableEq

end SqlBatch
