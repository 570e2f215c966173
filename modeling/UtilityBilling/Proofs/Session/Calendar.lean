/-
# The calendar

Days are numbered in eras of 400 years, which all have the same number of days. The year of a
day within its era is found by one division, which is right since the dividend grows with the
day and takes the right value at the first and the last day of each year. From there on the day
of the year gives month and day. So every day has its own date, and the date gives the day
again.
-/

import Mathlib.Tactic.IntervalCases
import UtilityBilling.Session.Instant

namespace UtilityBilling.Session

/-- The number of days of an era before a year, counted from March. -/
def yearStart (year : Nat) : Nat :=
  365 * year + year / 4 - year / 100

/-- What the year of a day of an era is found from, by division by 365. -/
def yearSlot (day : Nat) : Nat :=
  day - day / 1460 + (day / 36524 - day / 36524 / 4)

theorem yearSlot_mono {first later : Nat} (ordered : first ≤ later) :
    yearSlot first ≤ yearSlot later := by
  have whole : first - first / 1460 ≤ later - later / 1460 := by omega
  have centuries : first / 36524 ≤ later / 36524 := Nat.div_le_div_right ordered
  unfold yearSlot
  omega

/-- The first and the last day of each year have their year. -/
theorem yearSlot_bounds : ∀ year < 400,
    365 * year ≤ yearSlot (yearStart year) ∧
      yearSlot (yearStart (year + 1) - 1) < 365 * (year + 1) := by
  decide +kernel

/-- Every day of an era lies in the year that is found for it. The last day of all is the leap
day of the last year. -/
theorem year_of_day {day : Nat} (inside : day < 146097) :
    yearSlot day / 365 < 400 ∧ yearStart (yearSlot day / 365) ≤ day ∧
      (day < yearStart (yearSlot day / 365 + 1) ∨
        yearSlot day / 365 = 399 ∧ day = 146096) := by
  have top : yearSlot day ≤ yearSlot 146096 := yearSlot_mono (Nat.le_of_lt_succ inside)
  have last : yearSlot 146096 = 145999 := by decide
  generalize found : yearSlot day / 365 = year
  have slot := Nat.div_add_mod (yearSlot day) 365
  have below : yearSlot day % 365 < 365 := Nat.mod_lt _ (by decide)
  have young : year < 400 := by omega
  refine ⟨young, ?_, ?_⟩
  · by_contra early
    cases year with
    | zero => exact early (Nat.zero_le _)
    | succ before =>
        have bound := (yearSlot_bounds before (by omega)).2
        have earlier := yearSlot_mono (show day ≤ yearStart (before + 1) - 1 by omega)
        omega
  · by_contra late
    rw [not_or] at late
    by_cases lastYear : year = 399
    · subst lastYear
      have start : yearStart (399 + 1) = 146096 := by decide
      omega
    · have bound := (yearSlot_bounds (year + 1) (by omega)).1
      have later := yearSlot_mono (Nat.le_of_not_lt late.1)
      omega

/-- The month of a day of a year that starts in March, counted from March. -/
def monthFromMarch (day : Nat) : Nat :=
  (5 * day + 2) / 153

/-- The date of a day of a year of an era. -/
def dateOf (era year day : Nat) : Day :=
  let month := monthFromMarch day
  { year := year + era * 400 + if month < 10 then 0 else 1
    month := if month < 10 then month + 3 else month - 9
    day := day - (153 * month + 2) / 5 + 1 }

/-- A year has its days from the first to the last, and one more before each leap day. -/
def InYear (year day : Nat) : Prop :=
  day < 365 ∨ (day = 365 ∧ (year + 1) % 4 = 0 ∧ ((year + 1) % 100 ≠ 0 ∨ (year + 1) % 400 = 0))

theorem inYear_of_day {year day : Nat} (young : year < 400) (starts : yearStart year ≤ day)
    (ends : day < yearStart (year + 1) ∨ year = 399 ∧ day = 146096) :
    InYear year (day - yearStart year) := by
  unfold InYear
  rcases ends with before | ⟨rfl, rfl⟩
  · unfold yearStart at *
    omega
  · right
    decide

theorem month_cases {year day : Nat} (inYear : InYear year day) :
    monthFromMarch day < 12 ∧ (153 * monthFromMarch day + 2) / 5 ≤ day := by
  unfold monthFromMarch
  unfold InYear at inYear
  omega

/-- A day of an era and its year give the date. -/
theorem ofNumber_eq {shifted : Nat} (young : yearSlot (shifted % 146097) / 365 < 400)
    (starts : yearStart (yearSlot (shifted % 146097) / 365) ≤ shifted % 146097)
    (inYear : InYear (yearSlot (shifted % 146097) / 365)
      (shifted % 146097 - yearStart (yearSlot (shifted % 146097) / 365))) :
    Day.ofNumber ((shifted : Int) - 719468) =
      dateOf (shifted / 146097) (yearSlot (shifted % 146097) / 365)
        (shifted % 146097 - yearStart (yearSlot (shifted % 146097) / 365)) := by
  have eras : Int.fdiv (shifted : Int) 146097 = ((shifted / 146097 : Nat) : Int) :=
    Int.fdiv_eq_ediv_of_nonneg _ (by decide)
  have left : (shifted : Int) - ((shifted / 146097 : Nat) : Int) * 146097 =
      ((shifted % 146097 : Nat) : Int) := by omega
  rw [Day.ofNumber, Int.sub_add_cancel]
  simp only [eras, left]
  generalize shifted % 146097 = ofEra at *
  have years : ((ofEra : Int) - ofEra / 1460 + ofEra / 36524 - ofEra / 146096) / 365 =
      ((yearSlot ofEra / 365 : Nat) : Int) := by
    unfold yearSlot
    omega
  simp only [years]
  generalize yearSlot ofEra / 365 = year at *
  have days : (ofEra : Int) - (365 * (year : Int) + year / 4 - year / 100) =
      ((ofEra - yearStart year : Nat) : Int) := by
    unfold yearStart at *
    omega
  simp only [days]
  generalize ofEra - yearStart year = day at *
  have months : (5 * (day : Int) + 2) / 153 = (monthFromMarch day : Int) := by
    unfold monthFromMarch
    omega
  obtain ⟨_, starts⟩ := month_cases inYear
  simp only [months, dateOf, Day.mk.injEq]
  generalize monthFromMarch day = month at starts
  refine ⟨?_, ?_, by omega⟩
  · split <;> split <;> omega
  · split <;> split <;> omega

/-- Every day from the start of the first era on has a date. -/
theorem exists_dateOf (shifted : Nat) :
    ∃ era year day, shifted = era * 146097 + yearStart year + day ∧ year < 400 ∧
      InYear year day ∧ Day.ofNumber ((shifted : Int) - 719468) = dateOf era year day := by
  obtain ⟨young, starts, ends⟩ := year_of_day (Nat.mod_lt shifted (show 0 < 146097 by decide))
  have whole := Nat.div_add_mod' shifted 146097
  have inYear := inYear_of_day young starts ends
  exact ⟨_, _, _, by omega, young, inYear, ofNumber_eq young starts inYear⟩

/-- A date gives its day again. -/
theorem number_dateOf (era : Nat) {year day : Nat} (young : year < 400) (inYear : InYear year day) :
    (dateOf era year day).number =
      ((era * 146097 + yearStart year + day : Nat) : Int) - 719468 := by
  obtain ⟨small, starts⟩ := month_cases inYear
  have late : (if monthFromMarch day < 10 then monthFromMarch day + 3
      else monthFromMarch day - 9) ≤ 2 ↔ ¬ monthFromMarch day < 10 := by
    split <;> omega
  have years : Int.fdiv ((year : Int) + era * 400) 400 = era := by
    rw [Int.fdiv_eq_ediv_of_nonneg _ (by decide)]
    omega
  rw [Day.number, dateOf]
  simp only [late]
  generalize monthFromMarch day = month at *
  by_cases early : month < 10
  · simp only [early, not_true, if_true, if_false, Int.add_zero, years]
    unfold yearStart
    omega
  · simp only [early, not_false_iff, if_true, if_false, Int.add_sub_cancel, years]
    unfold yearStart
    omega

/-- A date is in the calendar. -/
theorem isValid_dateOf (era : Nat) {year day : Nat} (inYear : InYear year day) :
    (dateOf era year day).isValid = true := by
  obtain ⟨small, starts⟩ := month_cases inYear
  have next : 5 * day + 2 < 153 * (monthFromMarch day + 1) := by
    unfold monthFromMarch
    omega
  have leap : isLeapYear ((year : Int) + era * 400 + 1) = true ↔
      (year + 1) % 4 = 0 ∧ ((year + 1) % 100 ≠ 0 ∨ (year + 1) % 400 = 0) := by
    simp only [isLeapYear, Bool.and_eq_true, Bool.or_eq_true, beq_iff_eq, bne_iff_ne]
    omega
  unfold InYear at inYear
  unfold dateOf
  generalize monthFromMarch day = month at *
  have length : day - (153 * month + 2) / 5 + 1 ≤
      daysInMonth ((year : Int) + era * 400 + if month < 10 then 0 else 1)
        (if month < 10 then month + 3 else month - 9) := by
    by_cases february : month = 11
    · subst february
      simp only [daysInMonth, Nat.reduceLT, Nat.reduceSub, if_false, beq_self_eq_true, if_true]
      split
      case isTrue => omega
      case isFalse common =>
        rw [leap] at common
        omega
    · interval_cases month <;> simp [daysInMonth] at * <;> omega
  have months : 1 ≤ (if month < 10 then month + 3 else month - 9) ∧
      (if month < 10 then month + 3 else month - 9) ≤ 12 := by
    split <;> omega
  simp only [Day.isValid, Bool.and_eq_true, decide_eq_true_eq]
  exact ⟨⟨months, by omega⟩, length⟩

end UtilityBilling.Session
