import HeadlessDesktop.Time.Calendar
import Mathlib.Tactic.IntervalCases

/-! Days and dates. Every day has a date that the calendar knows, and the date leads back to
the day. A day of an era of four hundred years is split into centuries, groups of four years,
years and a day of the year; years start in March, so that a leap day ends its year. -/
namespace HeadlessDesktop.Time

/-- The day of an era that the day `rest` of a year is, the year being the one after so many
centuries, groups of four years and years. -/
structure EraDay (day century group year rest : Nat) : Prop where
  day_eq : day = 36524 * century + 1461 * group + 365 * year + rest
  century_le : century ≤ 3
  group_le : group ≤ 24
  year_le : year ≤ 3
  rest_le : rest ≤ 365
  leap : rest = 365 → year = 3 ∧ (group = 24 → century = 3)

theorem exists_eraDay {day : Nat} (h : day < 146097) :
    ∃ century group year rest, EraDay day century group year rest := by
  -- The last day of an era, a century and a group ends it instead of starting another.
  obtain ⟨century, hcentury, hlow, hhigh, hlast⟩ : ∃ century, century ≤ 3 ∧
      36524 * century ≤ day ∧ day ≤ 36524 * century + 36524 ∧
      (day = 36524 * century + 36524 → century = 3) := by
    by_cases hday : day = 146096
    · exact ⟨3, by omega⟩
    · exact ⟨day / 36524, by omega⟩
  obtain ⟨ofCentury, hofCentury⟩ : ∃ ofCentury, day = 36524 * century + ofCentury :=
    ⟨day - 36524 * century, by omega⟩
  obtain ⟨group, hgroup, hgroupLow, hgroupHigh⟩ : ∃ group, group ≤ 24 ∧
      1461 * group ≤ ofCentury ∧ ofCentury ≤ 1461 * group + 1460 := by
    by_cases hday : ofCentury = 36524
    · exact ⟨24, by omega⟩
    · exact ⟨ofCentury / 1461, by omega⟩
  obtain ⟨ofGroup, hofGroup⟩ : ∃ ofGroup, ofCentury = 1461 * group + ofGroup :=
    ⟨ofCentury - 1461 * group, by omega⟩
  obtain ⟨year, hyear, hyearLow, hyearHigh, hleap⟩ : ∃ year, year ≤ 3 ∧
      365 * year ≤ ofGroup ∧ ofGroup ≤ 365 * year + 365 ∧
      (ofGroup = 365 * year + 365 → year = 3) := by
    by_cases hday : ofGroup = 1460
    · exact ⟨3, by omega⟩
    · exact ⟨ofGroup / 365, by omega⟩
  refine ⟨century, group, year, ofGroup - 365 * year, by omega, hcentury, hgroup, hyear, by omega,
    ?_⟩
  intro hrest
  exact ⟨hleap (by omega), fun _ => by omega⟩

namespace EraDay

variable {day century group year rest : Nat}

theorem yearOfEra (h : EraDay day century group year rest) :
    (day - day / 1460 + day / 36524 - day / 146096) / 365 = 100 * century + 4 * group + year := by
  obtain ⟨rfl, hcentury, hgroup, hyear, hrest, hleap⟩ := h
  generalize hday : 36524 * century + 1461 * group + 365 * year + rest = day
  -- The three quotients are 25 centuries' worth of groups, the centuries and the last day.
  have hcenturies : day / 36524 - day / 146096 = century ∧ day / 146096 ≤ day / 36524 := by
    by_cases hlast : day = 146096
    · omega
    · have hfirst : day / 36524 = century := by omega
      omega
  by_cases hlong : 1460 ≤ 24 * century + group + 365 * year + rest
  · have hgroups : day / 1460 = 25 * century + group + 1 := by omega
    omega
  · have hgroups : day / 1460 = 25 * century + group := by omega
    omega

theorem daysBefore (h : EraDay day century group year rest) :
    365 * (100 * century + 4 * group + year) + (100 * century + 4 * group + year) / 4 -
      (100 * century + 4 * group + year) / 100 = 36524 * century + 1461 * group + 365 * year := by
  obtain ⟨-, hcentury, hgroup, hyear, -, -⟩ := h
  omega

end EraDay

def Date.ofMarch (year : Int) (rest : Nat) : Date :=
  let march := (5 * rest + 2) / 153
  ⟨if march < 10 then year else year + 1, if march < 10 then march + 3 else march - 9,
    rest - (153 * march + 2) / 5 + 1⟩

theorem EraDay.ofDays {days : Int} {century group year rest : Nat}
    (h : EraDay ((days + epochShift) % daysPerEra).toNat century group year rest) :
    Date.ofDays days = Date.ofMarch
      ((days + epochShift) / daysPerEra * 400 + (100 * century + 4 * group + year : Nat)) rest := by
  have hrest : ((days + epochShift) % daysPerEra).toNat -
      (36524 * century + 1461 * group + 365 * year) = rest := by
    rw [h.day_eq]
    omega
  unfold Date.ofDays Date.ofMarch
  simp only [h.yearOfEra, h.daysBefore, hrest]
  have hmarch : (5 * rest + 2) / 153 < 12 := by
    have := h.rest_le
    omega
  split
  · rw [if_neg (by omega)]
  · rw [if_pos (by omega)]

theorem dayOfYear_ofMarch (year : Int) {rest : Nat} (h : rest ≤ 365) :
    dayOfYear (Date.ofMarch year rest).month (Date.ofMarch year rest).day = rest := by
  unfold dayOfYear Date.ofMarch
  dsimp only
  split
  · have hmonth : ((5 * rest + 2) / 153 + 3 + 9) % 12 = (5 * rest + 2) / 153 := by omega
    rw [hmonth]
    omega
  · have hmonth : ((5 * rest + 2) / 153 - 9 + 9) % 12 = (5 * rest + 2) / 153 := by omega
    rw [hmonth]
    omega

theorem year_ofMarch (year : Int) {rest : Nat} (h : rest ≤ 365) :
    (if (Date.ofMarch year rest).month ≤ 2 then (Date.ofMarch year rest).year - 1
      else (Date.ofMarch year rest).year) = year := by
  unfold Date.ofMarch
  dsimp only
  split
  · rw [if_neg (by omega)]
  · rw [if_pos (by omega)]
    omega

theorem daysInMonth_march (year : Int) {march : Nat} (h : march < 11) :
    daysInMonth year (if march < 10 then march + 3 else march - 9) =
      (153 * (march + 1) + 2) / 5 - (153 * march + 2) / 5 := by
  interval_cases march <;> rfl

theorem valid_ofMarch (year : Int) {rest : Nat} (h : rest ≤ 365)
    (hleap : rest = 365 → isLeapYear (year + 1) = true) : (Date.ofMarch year rest).Valid := by
  unfold Date.Valid Date.ofMarch
  dsimp only
  obtain ⟨march, hmarch⟩ : ∃ march, (5 * rest + 2) / 153 = march := ⟨_, rfl⟩
  rw [hmarch]
  refine ⟨by split <;> omega, by split <;> omega, by omega, ?_⟩
  by_cases hlast : march < 11
  · rw [daysInMonth_march _ hlast]
    omega
  · -- February, the last month, is cut off by the end of the year.
    have hmonth : march = 11 := by omega
    have hdays : daysInMonth (year + 1) 2 = if isLeapYear (year + 1) then 29 else 28 := rfl
    rw [if_neg (by omega), if_neg (by omega), hmonth, hdays]
    split
    · omega
    · rename_i hcommon
      have hrest : rest ≠ 365 := fun heq => hcommon (hleap heq)
      omega

theorem exists_ofMarch (days : Int) :
    ∃ (era : Int) (century group year rest : Nat),
      days + epochShift = era * daysPerEra + (36524 * century + 1461 * group + 365 * year + rest) ∧
      Date.ofDays days = Date.ofMarch (era * 400 + (100 * century + 4 * group + year)) rest ∧
      EraDay (36524 * century + 1461 * group + 365 * year + rest) century group year rest := by
  obtain ⟨era, hera⟩ : ∃ era, (days + epochShift) / daysPerEra = era := ⟨_, rfl⟩
  obtain ⟨day, hday⟩ : ∃ day, ((days + epochShift) % daysPerEra).toNat = day := ⟨_, rfl⟩
  have hsplit : days + epochShift = era * daysPerEra + day ∧ day < 146097 := by
    unfold daysPerEra at *
    omega
  obtain ⟨century, group, year, rest, h⟩ := exists_eraDay hsplit.2
  have hdate := EraDay.ofDays (hday ▸ h)
  refine ⟨era, century, group, year, rest, ?_, ?_, h.day_eq ▸ h⟩
  · rw [hsplit.1, h.day_eq]
    push_cast
    omega
  · rw [hdate, hera]
    push_cast
    rfl

theorem Date.toDays_ofDays (days : Int) : (Date.ofDays days).toDays = days := by
  obtain ⟨era, century, group, year, rest, hdays, hdate, h⟩ := exists_ofMarch days
  have hyear : (era * 400 + (100 * century + 4 * group + year)) / 400 = era := by
    obtain ⟨-, hcentury, hgroup, hyear, -, -⟩ := h
    omega
  have hofEra : ((era * 400 + (100 * century + 4 * group + year)) % 400).toNat =
      100 * century + 4 * group + year := by
    obtain ⟨-, hcentury, hgroup, hyear, -, -⟩ := h
    omega
  unfold toDays
  simp only [hdate, year_ofMarch _ h.rest_le, dayOfYear_ofMarch _ h.rest_le, hyear, hofEra]
  have hbefore := h.daysBefore
  omega

theorem Date.valid_ofDays (days : Int) : (Date.ofDays days).Valid := by
  obtain ⟨era, century, group, year, rest, -, hdate, h⟩ := exists_ofMarch days
  rw [hdate]
  refine valid_ofMarch _ h.rest_le fun hrest => ?_
  obtain ⟨hyear, hgroup⟩ := h.leap hrest
  have hle := h.group_le
  have hcentury := h.century_le
  unfold isLeapYear
  simp
  omega

theorem Date.days_bounds {days : Int} (hlow : 0 ≤ (Date.ofDays days).year)
    (hhigh : (Date.ofDays days).year ≤ 9999) : -1000000 ≤ days ∧ days ≤ 3000000 := by
  obtain ⟨era, century, group, year, rest, hdays, hdate, h⟩ := exists_ofMarch days
  obtain ⟨-, hcentury, hgroup, hyear, hrest, -⟩ := h
  have hnear := year_ofMarch (era * 400 + (100 * century + 4 * group + year)) hrest
  rw [← hdate] at hnear
  unfold daysPerEra epochShift at hdays
  split at hnear
  · omega
  · omega

end HeadlessDesktop.Time
