import FenceCheck.Text.CodePoint

/-!
Dates and times of day that exist: years from one, and months of the lengths that the Gregorian
calendar gives them.
-/

namespace FenceCheck

namespace Calendar

def daysIn (year month : Nat) : Nat :=
  if month = 2 then
    if year % 4 = 0 ∧ (year % 100 ≠ 0 ∨ year % 400 = 0) then 29 else 28
  else if [4, 6, 9, 11].contains month then 30 else 31

def dateFault? (year month day : Nat) : Option Text :=
  if year = 0 then some "year 0 is out of range"
  else if month = 0 ∨ 12 < month then some "month must be in 1..12"
  else if day = 0 ∨ daysIn year month < day then some "day is out of range for month"
  else none

def timeFault? (hour minute second : Nat) : Option Text :=
  if 23 < hour then some "hour must be in 0..23"
  else if 59 < minute then some "minute must be in 0..59"
  else if 59 < second then some "second must be in 0..59"
  else none

/-- The microseconds of a fraction of a second given by its digits, cut after six places. -/
def microseconds (fraction : List Nat) : Nat :=
  let places := fraction.take 6
  (places ++ List.replicate (6 - places.length) 0).foldl (fun n d => 10 * n + d) 0

end Calendar

end FenceCheck
