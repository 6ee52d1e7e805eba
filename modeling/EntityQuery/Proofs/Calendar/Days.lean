import EntityQuery.Calendar.Date
import Mathlib.Data.Int.Init
import Mathlib.Tactic.Common
import Mathlib.Tactic.IntervalCases

/-! Dates and their numbers. Every number is that of a date of the calendar, and a later date has a greater
number. -/

namespace EntityQuery.Date

structure IsProper (d : Date) : Prop where
  month_pos : 1 ≤ d.month
  month_le : d.month ≤ 12
  day_pos : 1 ≤ d.day
  day_le : d.day ≤ daysInMonth d.year d.month

lemma isValid_iff {d : Date} : d.isValid = true ↔ leastYear ≤ d.year ∧ d.year ≤ greatestYear ∧ d.IsProper := by
  simp only [isValid, decide_eq_true_eq]
  constructor
  · rintro ⟨hleast, hgreatest, hmonth, hmonth', hday, hday'⟩
    exact ⟨hleast, hgreatest, hmonth, hmonth', hday, hday'⟩
  · rintro ⟨hleast, hgreatest, hmonth, hmonth', hday, hday'⟩
    exact ⟨hleast, hgreatest, hmonth, hmonth', hday, hday'⟩

lemma daysInMonth_le (year : Int) (month : Nat) : daysInMonth year month ≤ 31 := by
  unfold daysInMonth
  split
  · split <;> decide
  all_goals decide

lemma daysBeforeYear_succ (year : Int) :
    daysBeforeYear (year + 1) = daysBeforeYear year + 365 + if isLeapYear (year + 1) then 1 else 0 := by
  simp only [daysBeforeYear, isLeapYear, decide_eq_true_eq]
  split <;> omega

section March

lemma daysBeforeYear_add_era (era year : Int) :
    daysBeforeYear (400 * era + year) = 146097 * era + daysBeforeYear year := by
  simp only [daysBeforeYear]
  omega

lemma exists_year_of_lt {day : Int} (hday : 0 ≤ day) (years : Nat) (h : day < daysBeforeYear years) :
    ∃ year : Int, 0 ≤ year ∧ year < years ∧ daysBeforeYear year ≤ day ∧ day < daysBeforeYear (year + 1) := by
  induction years with
  | zero =>
    have : daysBeforeYear (0 : Nat) = 0 := rfl
    omega
  | succ years ih =>
    by_cases hbefore : day < daysBeforeYear years
    · obtain ⟨year, hyear⟩ := ih hbefore
      exact ⟨year, hyear.1, by omega, hyear.2.2⟩
    · exact ⟨years, by omega, by omega, by omega, by exact_mod_cast h⟩

def yearOfEra (day : Int) : Int :=
  (day - day / 1460 + day / 36524 - day / 146096) / 365

lemma yearOfEra_eq {year day : Int} (hyear : 0 ≤ year) (hyear' : year < 400) (h : daysBeforeYear year ≤ day)
    (h' : day < daysBeforeYear (year + 1)) : yearOfEra day = year := by
  -- centuries, leap periods and years have 36524, 1461 and 365 days, and the last one of each is short or long
  obtain ⟨c, q, y, rfl, hc, hc', hq, hq', hy, hy'⟩ : ∃ c q y, year = 100 * c + 4 * q + y ∧ 0 ≤ c ∧ c < 4 ∧
      0 ≤ q ∧ q < 25 ∧ 0 ≤ y ∧ y < 4 := ⟨year / 100, year % 100 / 4, year % 4, by omega⟩
  have hfirst : 36524 * c + 1461 * q + 365 * y ≤ day := by
    have : daysBeforeYear (100 * c + 4 * q + y) = 36524 * c + 1461 * q + 365 * y := by
      simp only [daysBeforeYear]
      omega
    omega
  have hlast : day ≤ 36524 * c + 1461 * q + 365 * y + 365 ∧
      (day = 36524 * c + 1461 * q + 365 * y + 365 → y = 3 ∧ (q < 24 ∨ c = 3)) := by
    simp only [daysBeforeYear] at h'
    omega
  clear h h'
  have hcentury : day / 36524 - day / 146096 = c := by
    have : day < 36524 * c + 36524 ∨ c = 3 ∧ day = 146096 := by omega
    rcases this with hday | ⟨rfl, rfl⟩
    · have : day / 36524 = c := by omega
      omega
    · rfl
  have hday : 0 ≤ day - day / 1460 + c - 365 * (100 * c + 4 * q + y) ∧
      day - day / 1460 + c - 365 * (100 * c + 4 * q + y) < 365 := by omega
  rw [yearOfEra]
  omega

lemma daysInMonth_eq (year : Int) (month : Nat) :
    daysInMonth year month = daysInMonth (if isLeapYear year then 0 else 1) month := by
  unfold daysInMonth
  split <;> cases isLeapYear year <;> rfl

lemma daysInMonth_of_ne (year year' : Int) {month : Nat} (h : month ≠ 2) :
    daysInMonth year month = daysInMonth year' month := by
  unfold daysInMonth
  split
  · exact absurd rfl h
  all_goals rfl

/-- The days of a year that begins in March, one by one; the year 0 is a leap year and the year 1 is not. -/
lemma monthOfDay_spec : ∀ day : Nat, day < 366 → 1 ≤ monthOfDay day ∧ monthOfDay day ≤ 12 ∧
    daysBefore (monthOfDay day) ≤ day ∧
    day < daysBefore (monthOfDay day) + daysInMonth 0 (monthOfDay day) ∧
    (day < 365 → day < daysBefore (monthOfDay day) + daysInMonth 1 (monthOfDay day)) := by
  decide +kernel

def ofMarch (year day : Int) : Date where
  year := if monthOfDay day ≤ 2 then year + 1 else year
  month := monthOfDay day
  day := (day - daysBefore (monthOfDay day) + 1).toNat

lemma exists_ofDays_eq (n : Int) : ∃ (year : Int) (day : Nat), ofDays n = ofMarch year day ∧
    n + epoch = daysBeforeYear year + day ∧ day < 365 + if isLeapYear (year + 1) then 1 else 0 := by
  have hday : 0 ≤ (n + epoch) % 146097 := by omega
  obtain ⟨year, hyear, hyear', hfirst, hlast⟩ := exists_year_of_lt hday 400 (by
    change (n + epoch) % 146097 < 146097
    omega)
  have hera : yearOfEra ((n + epoch) % 146097) = year := yearOfEra_eq hyear (by omega) hfirst hlast
  have hstart : 365 * year + year / 4 - year / 100 = daysBeforeYear year := by
    simp only [daysBeforeYear]
    omega
  have hsucc := daysBeforeYear_succ (400 * ((n + epoch) / 146097) + year)
  have hadd := daysBeforeYear_add_era ((n + epoch) / 146097)
  rw [add_assoc, hadd, hadd, ← add_assoc] at hsucc
  refine ⟨400 * ((n + epoch) / 146097) + year, ((n + epoch) % 146097 - daysBeforeYear year).toNat, ?_, ?_, ?_⟩
  · have hofDays : ofDays n = ofMarch ((n + epoch) / 146097 * 400 + yearOfEra ((n + epoch) % 146097))
        ((n + epoch) % 146097 - (365 * yearOfEra ((n + epoch) % 146097) + yearOfEra ((n + epoch) % 146097) / 4 -
          yearOfEra ((n + epoch) % 146097) / 100)) := rfl
    rw [hofDays, hera, hstart, mul_comm, Int.toNat_of_nonneg (by omega)]
  · rw [hadd]
    omega
  · split_ifs at hsucc ⊢ <;> omega

lemma toDays_ofMarch (year : Int) {day : Nat} (h : day < 366) :
    toDays (ofMarch year day) = daysBeforeYear year + day - epoch := by
  obtain ⟨-, -, hbefore, -⟩ := monthOfDay_spec day h
  have hyear : (ofMarch year day).marchYear = year := by
    simp only [marchYear, ofMarch]
    split <;> omega
  rw [toDays, hyear]
  simp only [ofMarch]
  omega

lemma isProper_ofMarch {year : Int} {day : Nat} (h : day < 365 + if isLeapYear (year + 1) then 1 else 0) :
    (ofMarch year day).IsProper := by
  obtain ⟨hmonth, hmonth', hbefore, hleap, hcommon⟩ := monthOfDay_spec day (by split at h <;> omega)
  have hday : day < daysBefore (monthOfDay day) + daysInMonth (ofMarch year day).year (monthOfDay day) := by
    by_cases hfebruary : monthOfDay day = 2
    · have hyear : (ofMarch year day).year = year + 1 := by simp [ofMarch, hfebruary]
      rw [hyear, daysInMonth_eq]
      split at h
      · rwa [if_pos ‹_›]
      · rw [if_neg ‹_›]
        exact hcommon h
    · rwa [daysInMonth_of_ne _ 0 hfebruary]
  refine ⟨hmonth, hmonth', ?_, ?_⟩
  · simp only [ofMarch]
    omega
  · simp only [ofMarch] at hday ⊢
    omega

end March

theorem toDays_ofDays (n : Int) : toDays (ofDays n) = n := by
  obtain ⟨year, day, hdate, hn, hday⟩ := exists_ofDays_eq n
  rw [hdate, toDays_ofMarch year (by split at hday <;> omega)]
  omega

theorem isProper_ofDays (n : Int) : (ofDays n).IsProper := by
  obtain ⟨year, day, hdate, -, hday⟩ := exists_ofDays_eq n
  exact hdate ▸ isProper_ofMarch hday

section Order

instance : LT Date where
  lt d e := d.year < e.year ∨ d.year = e.year ∧ (d.month < e.month ∨ d.month = e.month ∧ d.day < e.day)

lemma lt_iff {d e : Date} : d < e ↔
    d.year < e.year ∨ d.year = e.year ∧ (d.month < e.month ∨ d.month = e.month ∧ d.day < e.day) :=
  Iff.rfl

lemma lt_or_eq_or_gt (d e : Date) : d < e ∨ d = e ∨ e < d := by
  obtain ⟨year, month, day⟩ := d
  obtain ⟨year', month', day'⟩ := e
  simp only [lt_iff, Date.mk.injEq]
  omega

def ofMonth (k : Int) : Date :=
  ⟨k / 12, (k % 12).toNat + 1, 1⟩

lemma ofMonth_eq (year : Int) {month : Nat} (h : 1 ≤ month) (h' : month ≤ 12) :
    ofMonth (12 * year + month - 1) = ⟨year, month, 1⟩ := by
  simp only [ofMonth, Date.mk.injEq, and_true]
  omega

lemma toDays_ofMonth_succ (k : Int) :
    toDays (ofMonth (k + 1)) = toDays (ofMonth k) + daysInMonth (ofMonth k).year (ofMonth k).month := by
  obtain ⟨year, month, rfl, h, h'⟩ : ∃ (year : Int) (month : Nat), k = 12 * year + month - 1 ∧ 1 ≤ month ∧ month ≤ 12 :=
    ⟨k / 12, (k % 12).toNat + 1, by omega⟩
  rw [ofMonth_eq year h h']
  rcases Nat.lt_or_ge month 12 with hlt | hge
  · have hsucc : (12 * year + month - 1 + 1 : Int) = 12 * year + (month + 1 : Nat) - 1 := by omega
    rw [hsucc, ofMonth_eq year (by omega) (by omega)]
    have hyear := daysBeforeYear_succ (year - 1)
    rw [Int.sub_add_cancel] at hyear
    interval_cases month <;> simp [toDays, marchYear, daysBefore, daysInMonth] <;> split_ifs at * <;> omega
  · obtain rfl : month = 12 := by omega
    have hsucc : (12 * year + (12 : Nat) - 1 + 1 : Int) = 12 * (year + 1) + (1 : Nat) - 1 := by omega
    rw [hsucc, ofMonth_eq (year + 1) (by omega) (by omega)]
    simp [toDays, marchYear, daysBefore, daysInMonth]
    omega

lemma toDays_ofMonth_mono {j k : Int} (h : j ≤ k) : toDays (ofMonth j) ≤ toDays (ofMonth k) := by
  induction k, h using Int.leInduction with
  | base => exact le_rfl
  | succ k _ ih =>
    rw [toDays_ofMonth_succ]
    omega

lemma toDays_eq_ofMonth {d : Date} (h : d.IsProper) :
    toDays d = toDays (ofMonth (12 * d.year + d.month - 1)) + d.day - 1 := by
  rw [ofMonth_eq d.year h.month_pos h.month_le]
  simp only [toDays, marchYear]
  omega

theorem toDays_lt_toDays {d e : Date} (hd : d.IsProper) (he : e.IsProper) (h : d < e) : toDays d < toDays e := by
  rw [toDays_eq_ofMonth hd, toDays_eq_ofMonth he]
  have hday := hd.day_le
  have hday' := he.day_pos
  rw [lt_iff] at h
  by_cases hmonth : 12 * d.year + d.month - 1 < 12 * e.year + e.month - 1
  · -- the whole month of the earlier date lies before the later one
    have hmono := toDays_ofMonth_mono (Int.add_one_le_of_lt hmonth)
    have hsucc := toDays_ofMonth_succ (12 * d.year + d.month - 1)
    rw [ofMonth_eq d.year hd.month_pos hd.month_le] at hsucc ⊢
    simp only at hsucc hmono
    omega
  · have := hd.month_pos
    have := hd.month_le
    have := he.month_pos
    have := he.month_le
    have heq : (12 * d.year + d.month - 1 : Int) = 12 * e.year + e.month - 1 := by omega
    rw [heq]
    omega

theorem ofDays_lt_ofDays {m n : Int} (h : m < n) : ofDays m < ofDays n := by
  rcases lt_or_eq_or_gt (ofDays m) (ofDays n) with hlt | heq | hgt
  · exact hlt
  · have := congrArg toDays heq
    rw [toDays_ofDays, toDays_ofDays] at this
    omega
  · have := toDays_lt_toDays (isProper_ofDays n) (isProper_ofDays m) hgt
    rw [toDays_ofDays, toDays_ofDays] at this
    omega

end Order

end EntityQuery.Date
