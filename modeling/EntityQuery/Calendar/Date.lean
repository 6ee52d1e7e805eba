/-!
The proleptic Gregorian calendar: dates of any year and their number in the count of days from
1970-01-01. Years are counted from March, so that the leap day is the last day of its year.
-/

namespace EntityQuery

structure Date where
  year : Int
  month : Nat
  day : Nat
deriving DecidableEq, Repr

namespace Date

def isLeapYear (year : Int) : Bool :=
  year % 4 = 0 ∧ (year % 100 ≠ 0 ∨ year % 400 = 0)

def daysInMonth (year : Int) (month : Nat) : Nat :=
  match month with
  | 2 => if isLeapYear year then 29 else 28
  | 4 | 6 | 9 | 11 => 30
  | _ => 31

def leastYear : Int := -262143

def greatestYear : Int := 262142

def isValid (d : Date) : Bool :=
  leastYear ≤ d.year ∧ d.year ≤ greatestYear ∧ 1 ≤ d.month ∧ d.month ≤ 12 ∧
    1 ≤ d.day ∧ d.day ≤ daysInMonth d.year d.month

def daysBefore (month : Nat) : Nat :=
  match month with
  | 3 => 0
  | 4 => 31
  | 5 => 61
  | 6 => 92
  | 7 => 122
  | 8 => 153
  | 9 => 184
  | 10 => 214
  | 11 => 245
  | 12 => 275
  | 1 => 306
  | _ => 337

def marchYear (d : Date) : Int :=
  if d.month ≤ 2 then d.year - 1 else d.year

def daysBeforeYear (year : Int) : Int :=
  365 * year + year / 4 - year / 100 + year / 400

def epoch : Int := 719468

def toDays (d : Date) : Int :=
  daysBeforeYear d.marchYear + daysBefore d.month + d.day - 1 - epoch

def monthOfDay (dayOfYear : Int) : Nat :=
  if dayOfYear < 31 then 3
  else if dayOfYear < 61 then 4
  else if dayOfYear < 92 then 5
  else if dayOfYear < 122 then 6
  else if dayOfYear < 153 then 7
  else if dayOfYear < 184 then 8
  else if dayOfYear < 214 then 9
  else if dayOfYear < 245 then 10
  else if dayOfYear < 275 then 11
  else if dayOfYear < 306 then 12
  else if dayOfYear < 337 then 1
  else 2

/-- The date with this number. Four centuries have 146097 days; within them the year is found by
taking out the leap days. -/
def ofDays (n : Int) : Date :=
  let days := n + epoch
  let era := days / 146097
  let dayOfEra := days % 146097
  let yearOfEra := (dayOfEra - dayOfEra / 1460 + dayOfEra / 36524 - dayOfEra / 146096) / 365
  let dayOfYear := dayOfEra - (365 * yearOfEra + yearOfEra / 4 - yearOfEra / 100)
  let month := monthOfDay dayOfYear
  let year := era * 400 + yearOfEra
  { year := if month ≤ 2 then year + 1 else year
    month
    day := (dayOfYear - daysBefore month + 1).toNat }

example : toDays ⟨1970, 1, 1⟩ = 0 := by decide
example : toDays ⟨2000, 2, 29⟩ = 11016 := by decide
example : ofDays 11016 = ⟨2000, 2, 29⟩ := by decide
example : ofDays (-719469) = ⟨0, 2, 29⟩ := by decide
example : ofDays (toDays ⟨-262143, 1, 1⟩) = ⟨-262143, 1, 1⟩ := by decide

end Date

end EntityQuery
