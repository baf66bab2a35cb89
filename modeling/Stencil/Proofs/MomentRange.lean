import Stencil.Time.Moment

/-!
# The range of moments

A day is found in a cycle of 400 years that begin in March. The year found there is the one whose first day is the last
New Year up to that day, so a range of years is a range of days, and a range of days one of seconds.
-/

namespace Stencil

namespace Date

/-! ### Years of a cycle -/

def newYear (year : Int) : Date :=
  { year, month := 1, day := 1 }

/-- Days before a year that begins in March, from the first of March of year 0 on. -/
def daysBeforeMarchYear (y : Int) : Int :=
  365 * y + y / 4 - y / 100 + y / 400

theorem toDays_newYear (year : Int) : (newYear year).toDays = daysBeforeMarchYear (year - 1) + 306 - 719468 := by
  simp [toDays, newYear, daysBeforeMarchYear, daysBeforeMarchMonth]

theorem toDays_newYear_le {y z : Int} (h : y ≤ z) : (newYear y).toDays ≤ (newYear z).toDays := by
  rw [toDays_newYear, toDays_newYear]
  simp only [daysBeforeMarchYear]
  omega

theorem daysBeforeMarchYear_add_cycles (y cycles : Int) :
    daysBeforeMarchYear (y + cycles * 400) = daysBeforeMarchYear y + cycles * 146097 := by
  simp only [daysBeforeMarchYear]
  omega

theorem daysBeforeMarchYear_succ (y : Int) : daysBeforeMarchYear y + 365 ≤ daysBeforeMarchYear (y + 1) := by
  simp only [daysBeforeMarchYear]
  omega

section Cycle

variable {d y : Int} (hd : 0 ≤ d) (hlt : d < 146097) (hy : y = (d - d / 1460 + d / 36524 - d / 146096) / 365)
include hd hlt hy

/- The corrections for leap days are taken from the day, not from the year; they are no less than those of the year. -/
theorem daysBefore_yearOfCycle_le : 0 ≤ y ∧ y < 400 ∧ 365 * y + y / 4 - y / 100 ≤ d := by
  have hcentury : d / 36524 ≤ d / 1460 := by omega
  have hfour : y / 4 ≤ d / 1460 := by omega
  have hhundred : d / 36524 - d / 146096 ≤ y / 100 := by
    have hcases : d / 36524 = 0 ∨ d / 36524 = 1 ∨ d / 36524 = 2 ∨ d / 36524 = 3 ∨ d / 36524 = 4 := by omega
    omega
  omega

theorem lt_daysBefore_yearOfCycle_succ : d < daysBeforeMarchYear (y + 1) := by
  have hcentury : d / 36524 ≤ d / 1460 := by omega
  have hfour : d / 1460 ≤ (y + 1) / 4 := by omega
  have hend : y + 1 ≤ 400 := by omega
  simp only [daysBeforeMarchYear]
  -- the last year of a century has no leap day, so its last day is found by the day alone
  by_cases hlast : y + 1 = 100 * (d / 36524 + 1)
  · omega
  · have hhundred : (y + 1) / 100 ≤ d / 36524 := by omega
    omega

end Cycle

/-! ### The date of a day -/

theorem ofDays_month (n : Int) : 1 ≤ (ofDays n).month ∧ (ofDays n).month ≤ 12 := by
  have hnonneg := Int.emod_nonneg (n + 719468) (by decide : (146097 : Int) ≠ 0)
  have hlt := Int.emod_lt_of_pos (n + 719468) (by decide : (0 : Int) < 146097)
  simp only [ofDays, daysBeforeMarchMonth]
  generalize (n + 719468) % 146097 = d at hnonneg hlt ⊢
  split
  · omega
  · omega

theorem ofDays_year (n : Int) :
    (newYear (ofDays n).year).toDays ≤ n ∧ n < (newYear ((ofDays n).year + 1)).toDays := by
  have hnonneg := Int.emod_nonneg (n + 719468) (by decide : (146097 : Int) ≠ 0)
  have hlt := Int.emod_lt_of_pos (n + 719468) (by decide : (0 : Int) < 146097)
  have hday := Int.mul_ediv_add_emod (n + 719468) 146097
  rw [toDays_newYear, toDays_newYear]
  simp only [ofDays, daysBeforeMarchMonth]
  generalize (n + 719468) % 146097 = d at hnonneg hlt hday ⊢
  generalize (n + 719468) / 146097 = cycle at hday ⊢
  generalize hy : (d - d / 1460 + d / 36524 - d / 146096) / 365 = y
  obtain ⟨hfirst, hlast, hbefore⟩ := daysBefore_yearOfCycle_le hnonneg hlt hy.symm
  have hafter := lt_daysBefore_yearOfCycle_succ hnonneg hlt hy.symm
  have hstart : daysBeforeMarchYear y = 365 * y + y / 4 - y / 100 := by
    rw [daysBeforeMarchYear, Int.ediv_eq_zero_of_lt hfirst hlast, Int.add_zero]
  have hcycle := daysBeforeMarchYear_add_cycles y cycle
  have hcycle' := daysBeforeMarchYear_add_cycles (y + 1) cycle
  -- January and February are the months 10 and 11 of the year that began in March
  by_cases hmonth : (5 * (d - (365 * y + y / 4 - y / 100)) + 2) / 153 < 10
  · rw [if_pos hmonth, if_neg (by omega)]
    have hyear : y + cycle * 400 + 0 + 1 - 1 = y + cycle * 400 := by omega
    have hlength := daysBeforeMarchYear_succ (y + cycle * 400 + 0 - 1)
    rw [Int.sub_add_cancel, Int.add_zero] at hlength
    rw [hyear, Int.add_zero]
    omega
  · rw [if_neg hmonth, if_pos (by omega)]
    have hyear : y + cycle * 400 + 1 - 1 = y + cycle * 400 := by omega
    have hyear' : y + cycle * 400 + 1 + 1 - 1 = y + 1 + cycle * 400 := by omega
    rw [hyear, hyear']
    omega

theorem le_year_ofDays_iff {year n : Int} : year ≤ (ofDays n).year ↔ (newYear year).toDays ≤ n := by
  obtain ⟨hfrom, hto⟩ := ofDays_year n
  constructor
  · intro h
    exact Int.le_trans (toDays_newYear_le h) hfrom
  · intro h
    refine Int.not_lt.1 fun hlt => ?_
    have hle := toDays_newYear_le (Int.add_one_le_of_lt hlt)
    omega

end Date

namespace Moment

open Date (newYear)

/-- The second in which the moment some hours later lies, from the beginning of 1970 on. Backwards, a leap second counts
as the second after it. -/
def secondAfter (m : Moment) (hours : Int) : Int :=
  m.day * daySeconds + m.second + (if secondNanos ≤ m.nano ∧ hours < 0 then 1 else 0) + hours * 3600

/-- The moment some hours later lies in the years that moments have. -/
def Reaches (m : Moment) (hours : Int) : Prop :=
  (newYear leastYear).toDays * daySeconds ≤ m.secondAfter hours ∧
    m.secondAfter hours < (newYear (greatestYear + 1)).toDays * daySeconds

instance (m : Moment) (hours : Int) : Decidable (m.Reaches hours) :=
  inferInstanceAs (Decidable (_ ∧ _))

theorem inRange_iff {day : Int} :
    inRange day = true ↔ (newYear leastYear).toDays ≤ day ∧ day < (newYear (greatestYear + 1)).toDays := by
  have hafter := @Date.le_year_ofDays_iff (greatestYear + 1) day
  simp only [inRange, Bool.and_eq_true, decide_eq_true_eq]
  rw [Date.le_year_ofDays_iff]
  omega

theorem addHours_day (m : Moment) (hours : Int) : (m.addHours hours).day = m.secondAfter hours / daySeconds := by
  have hextra : (if (decide (secondNanos ≤ m.nano) && hours != 0 && decide (hours < 0)) = true then (1 : Int) else 0) =
      if secondNanos ≤ m.nano ∧ hours < 0 then 1 else 0 := by
    congr 1
    simp only [Bool.and_eq_true, decide_eq_true_eq, bne_iff_ne, eq_iff_iff]
    omega
  simp only [addHours, secondAfter, hextra, daySeconds]
  omega

theorem shift?_of_reaches {m : Moment} {hours : Int} (h : m.Reaches hours) :
    m.shift? hours = some (m.addHours hours) := by
  refine if_pos (inRange_iff.2 ?_)
  rw [addHours_day]
  simp only [Reaches, daySeconds] at h ⊢
  omega

theorem shift?_of_not_reaches {m : Moment} {hours : Int} (h : ¬ m.Reaches hours) : m.shift? hours = none := by
  refine if_neg (mt inRange_iff.1 ?_)
  rw [addHours_day]
  simp only [Reaches, daySeconds] at h ⊢
  omega

end Moment

end Stencil
