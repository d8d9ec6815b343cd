/-!
# The Gregorian calendar

Days are counted from the first of January 1970, in both directions.
-/

namespace CacheTier
namespace Calendar

/-- Whether a year has a 29th of February. -/
def isLeapYear (year : Int) : Bool :=
  Int.fmod year 4 == 0 && (Int.fmod year 100 != 0 || Int.fmod year 400 == 0)

/-- The length of a month. -/
def monthLength (year : Int) (month : Nat) : Nat :=
  match month with
  | 2 => if isLeapYear year then 29 else 28
  | 4 | 6 | 9 | 11 => 30
  | _ => 31

/-- Whether a date exists. -/
def isDate (year : Int) (month day : Nat) : Bool :=
  1 ≤ month && month ≤ 12 && 1 ≤ day && day ≤ monthLength year month

/-- The days from the epoch to a date.  Years are taken to begin in March, so that
the leap day is the last of its year. -/
def dayNumber (year : Int) (month day : Nat) : Int :=
  let y : Int := if month ≤ 2 then year - 1 else year
  let era := Int.fdiv y 400
  let yearOfEra := y - era * 400
  let monthOfYear : Int := (month + 9) % 12
  let dayOfYear := Int.fdiv (153 * monthOfYear + 2) 5 + day - 1
  let dayOfEra := yearOfEra * 365 + Int.fdiv yearOfEra 4 - Int.fdiv yearOfEra 100 + dayOfYear
  era * 146097 + dayOfEra - 719468

/-- The year, month and day that lie a number of days after the epoch. -/
def dateOf (days : Int) : Int × Nat × Nat :=
  let shifted := days + 719468
  let era := Int.fdiv shifted 146097
  let dayOfEra := shifted - era * 146097
  let yearOfEra := Int.fdiv
    (dayOfEra - Int.fdiv dayOfEra 1460 + Int.fdiv dayOfEra 36524 - Int.fdiv dayOfEra 146096) 365
  let dayOfYear := dayOfEra -
    (365 * yearOfEra + Int.fdiv yearOfEra 4 - Int.fdiv yearOfEra 100)
  let monthOfYear := Int.fdiv (5 * dayOfYear + 2) 153
  let day := dayOfYear - Int.fdiv (153 * monthOfYear + 2) 5 + 1
  let month := if monthOfYear < 10 then monthOfYear + 3 else monthOfYear - 9
  let year := yearOfEra + era * 400 + if month ≤ 2 then 1 else 0
  (year, month.toNat, day.toNat)

end Calendar
end CacheTier
