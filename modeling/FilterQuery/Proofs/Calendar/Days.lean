import Mathlib
import FilterQuery.Calendar.Date

/-!
# Counting days

The number of a day is one more than that of the day before it, across the ends of months and years
as well. Numbers of days therefore follow the order of the days, so that a number stands for one day
only, and the numbers of all days of the calendar are small.
-/

namespace FilterQuery.Calendar

variable {year : Int} {month : Nat} {d d' : Date}

/-- The number of days in a year. -/
def daysInYear (year : Int) : Nat := if isLeapYear year then 366 else 365

theorem isLeapYear_iff :
    isLeapYear year = true ↔ year % 4 = 0 ∧ (year % 100 ≠ 0 ∨ year % 400 = 0) := by
  simp [isLeapYear]

/-- The twelfth month is the last one. -/
theorem daysInMonth_eq_zero (year : Int) (hmonth : 12 < month) : daysInMonth year month = 0 := by
  have hlength : (monthLengths (isLeapYear year)).length = 12 := rfl
  rw [daysInMonth, if_neg (by omega), List.getElem?_eq_none (by omega), Option.getD_none]

namespace Date

theorem daysBeforeYear_succ (year : Int) :
    daysBeforeYear (year + 1) = daysBeforeYear year + daysInYear year := by
  simp only [daysBeforeYear, daysInYear, isLeapYear_iff, Int.add_sub_cancel]
  split <;> omega

theorem daysBeforeMonth_succ (year : Int) (month : Nat) :
    daysBeforeMonth year (month + 1) = daysBeforeMonth year month + daysInMonth year month := by
  cases month with
  | zero => rfl
  | succ month =>
      rw [daysBeforeMonth, daysBeforeMonth, daysInMonth, if_neg (by omega), Nat.add_sub_cancel,
        Nat.add_sub_cancel, List.take_add_one, List.foldl_append]
      cases (monthLengths (isLeapYear year))[month]? <;> rfl

theorem daysBeforeYear_mono : Monotone daysBeforeYear :=
  monotone_int_of_le_succ fun year => by
    rw [daysBeforeYear_succ]
    omega

theorem daysBeforeMonth_mono (year : Int) : Monotone (daysBeforeMonth year) :=
  monotone_nat_of_le_succ fun month => by
    rw [daysBeforeMonth_succ]
    omega

/-- The months fill the year. -/
theorem daysBeforeMonth_thirteen (year : Int) : daysBeforeMonth year 13 = daysInYear year := by
  rw [daysBeforeMonth, daysInYear]
  cases isLeapYear year <;> rfl

theorem IsValid.month_le (h : d.IsValid) : d.month ≤ 12 := by
  by_contra hmonth
  have hnone := daysInMonth_eq_zero d.year (Nat.lt_of_not_le hmonth)
  obtain ⟨-, -, hfirst, hlast⟩ := h
  omega

/-- A day lies in front of the next month. -/
theorem IsValid.add_day_le (h : d.IsValid) :
    daysBeforeMonth d.year d.month + d.day ≤ daysBeforeMonth d.year (d.month + 1) := by
  rw [daysBeforeMonth_succ]
  exact Nat.add_le_add_left h.2.2.2 _

/-- A day lies in front of the next year. -/
theorem IsValid.add_day_le_daysInYear (h : d.IsValid) :
    daysBeforeMonth d.year d.month + d.day ≤ daysInYear d.year := by
  rw [← daysBeforeMonth_thirteen]
  exact h.add_day_le.trans (daysBeforeMonth_mono d.year (Nat.succ_le_succ h.month_le))

/-- The day after a day. -/
def next (d : Date) : Date :=
  if d.day < daysInMonth d.year d.month then ⟨d.year, d.month, d.day + 1⟩
  else if d.month < 12 then ⟨d.year, d.month + 1, 1⟩
  else ⟨d.year + 1, 1, 1⟩

/-- The number of a day is one more than that of the day before it. -/
theorem daysSince2000_next (h : d.IsValid) : d.next.daysSince2000 = d.daysSince2000 + 1 := by
  obtain ⟨year, month, day⟩ := d
  have hmonths : month ≤ 12 := h.month_le
  have hlast : day ≤ daysInMonth year month := h.2.2.2
  have hsucc := daysBeforeMonth_succ year month
  simp only [next]
  split
  case isTrue hday =>
    simp only [daysSince2000]
    omega
  case isFalse hday =>
    split
    case isTrue hmonth =>
      simp only [daysSince2000]
      omega
    case isFalse hmonth =>
      obtain rfl : month = 12 := by omega
      have hfirst : daysBeforeMonth (year + 1) 1 = 0 := rfl
      rw [daysBeforeMonth_thirteen] at hsucc
      simp only [daysSince2000, daysBeforeYear_succ, hfirst]
      omega

/-- The day comes before the other one. -/
def IsBefore (d d' : Date) : Prop :=
  d.year < d'.year ∨ d.year = d'.year ∧ (d.month < d'.month ∨ d.month = d'.month ∧ d.day < d'.day)

theorem IsBefore.daysSince2000_lt (hbefore : d.IsBefore d') (h : d.IsValid) (h' : d'.IsValid) :
    d.daysSince2000 < d'.daysSince2000 := by
  have hday' := h'.2.2.1
  rw [daysSince2000, daysSince2000]
  obtain hyear | ⟨hyear, hmonth | ⟨hmonth, hday⟩⟩ := hbefore
  · have hend := h.add_day_le_daysInYear
    have hmono := daysBeforeYear_mono (Int.add_one_le_of_lt hyear)
    rw [daysBeforeYear_succ] at hmono
    omega
  · have hend := h.add_day_le
    have hmono := daysBeforeMonth_mono d.year (Nat.succ_le_of_lt hmonth)
    rw [Nat.succ_eq_add_one] at hmono
    rw [← hyear]
    omega
  · rw [← hyear, ← hmonth]
    omega

theorem isBefore_trichotomy (d d' : Date) : d.IsBefore d' ∨ d = d' ∨ d'.IsBefore d := by
  obtain ⟨year, month, day⟩ := d
  obtain ⟨year', month', day'⟩ := d'
  simp only [IsBefore, Date.mk.injEq]
  omega

/-- A number stands for one day only. -/
theorem IsValid.eq_of_daysSince2000_eq (h : d.IsValid) (h' : d'.IsValid)
    (heq : d.daysSince2000 = d'.daysSince2000) : d = d' := by
  obtain hbefore | rfl | hbefore := isBefore_trichotomy d d'
  · exact absurd heq (hbefore.daysSince2000_lt h h').ne
  · rfl
  · exact absurd heq (hbefore.daysSince2000_lt h' h).ne'

/-- The numbers of all days of the calendar have at most eight digits. -/
theorem IsValid.abs_daysSince2000_lt (h : d.IsValid) : |d.daysSince2000| < 10 ^ 8 := by
  have hend := h.add_day_le_daysInYear
  have hyear : daysInYear d.year ≤ 366 := by
    rw [daysInYear]
    split <;> omega
  obtain ⟨hlow, hhigh, hfirst, -⟩ := h
  have hdays := daysBeforeYear_mono hlow
  have hdays' := daysBeforeYear_mono hhigh
  rw [abs_lt, daysSince2000]
  norm_num [daysBeforeYear] at hdays hdays' ⊢
  omega

end Date

end FilterQuery.Calendar
