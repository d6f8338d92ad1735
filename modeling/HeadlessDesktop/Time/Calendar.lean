/-! The proleptic Gregorian calendar. Days are counted from 1970-01-01. -/

namespace HeadlessDesktop.Time

structure Date where
  year : Int
  month : Nat
  day : Nat
deriving DecidableEq, Repr

def isLeapYear (year : Int) : Bool :=
  year % 4 == 0 && (year % 100 != 0 || year % 400 == 0)

def daysInMonth (year : Int) (month : Nat) : Nat :=
  if month == 2 then (if isLeapYear year then 29 else 28)
  else if month == 4 || month == 6 || month == 9 || month == 11 then 30
  else 31

def Date.Valid (date : Date) : Prop :=
  1 ≤ date.month ∧ date.month ≤ 12 ∧ 1 ≤ date.day ∧
    date.day ≤ daysInMonth date.year date.month

instance (date : Date) : Decidable date.Valid := by unfold Date.Valid; infer_instance

/-- Days from 0000-03-01 to 1970-01-01. -/
def epochShift : Int := 719468

def daysPerEra : Nat := 146097

/- The computational year starts on the first of March, so that the leap day is its last
day and the months before February follow one rule of lengths. -/

/-- Day of the year, counted from the first of March. -/
def dayOfYear (month day : Nat) : Nat :=
  (153 * ((month + 9) % 12) + 2) / 5 + day - 1

def Date.toDays (date : Date) : Int :=
  let year := if date.month ≤ 2 then date.year - 1 else date.year
  let era := year / 400
  let yearOfEra := (year % 400).toNat
  let dayOfEra := yearOfEra * 365 + yearOfEra / 4 - yearOfEra / 100 +
    dayOfYear date.month date.day
  era * daysPerEra + dayOfEra - epochShift

def Date.ofDays (days : Int) : Date :=
  let shifted := days + epochShift
  let era := shifted / daysPerEra
  let dayOfEra := (shifted % daysPerEra).toNat
  let yearOfEra := (dayOfEra - dayOfEra / 1460 + dayOfEra / 36524 - dayOfEra / 146096) / 365
  let dayOfYear := dayOfEra - (365 * yearOfEra + yearOfEra / 4 - yearOfEra / 100)
  let march := (5 * dayOfYear + 2) / 153
  let day := dayOfYear - (153 * march + 2) / 5 + 1
  let month := if march < 10 then march + 3 else march - 9
  let year := era * 400 + yearOfEra
  ⟨if month ≤ 2 then year + 1 else year, month, day⟩

end HeadlessDesktop.Time
