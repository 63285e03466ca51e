import BrokerPool.Calendar
import Mathlib.Tactic.IntervalCases

/-!
# Days and their dates

Every day has a date, and the date tells the day. A cycle of four hundred years has four centuries,
a century twenty-five groups of four years, and every group and every fourth century ends in a leap
day, because the years begin in March.

Results:
* `isValid_ofDays`: the date of a day is a date of the calendar.
* `toDays_ofDays`: a day is told by its date.
-/

namespace BrokerPool.Date

/-! ## Days of a cycle -/

/-- A day of a cycle: its century, its group of four years, its year and its day in the year. -/
structure InCycle (n century four year day : ℕ) : Prop where
  centuries : century ≤ 3
  fours : four ≤ 24
  years : year ≤ 3
  days : day ≤ 365
  /-- A leap day ends a group of four years that does not end any of the first three centuries. -/
  leap : day = 365 → year = 3 ∧ (four = 24 → century = 3)
  total : n = 36524 * century + (1461 * four + (365 * year + day))

theorem exists_inCycle {n : ℕ} (h : n < 146097) : ∃ c q t d, InCycle n c q t d := by
  obtain ⟨c, r, rfl, hc, hr⟩ :
      ∃ c r, n = 36524 * c + r ∧ c ≤ 3 ∧ (r < 36524 ∨ r = 36524 ∧ c = 3) := by
    by_cases last : n = 146096
    · exact ⟨3, 36524, by omega⟩
    · exact ⟨n / 36524, n % 36524, by omega⟩
  obtain ⟨q, s, rfl, hq, hs⟩ : ∃ q s, r = 1461 * q + s ∧ q ≤ 24 ∧ s ≤ 1460 :=
    ⟨r / 1461, r % 1461, by omega⟩
  obtain ⟨t, d, rfl, ht, hd⟩ : ∃ t d, s = 365 * t + d ∧ t ≤ 3 ∧ (d < 365 ∨ d = 365 ∧ t = 3) := by
    by_cases last : s = 1460
    · exact ⟨3, 365, by omega⟩
    · exact ⟨s / 365, s % 365, by omega⟩
  exact ⟨c, q, t, d, hc, hq, ht, by omega, by omega, rfl⟩

section InCycle

variable {n c q t d : ℕ}

/-- The days that leap days and the ends of centuries put ahead of years of 365 days. -/
theorem InCycle.ahead (h : InCycle n c q t d) : ∃ k, k ≤ d ∧ d - k < 365 ∧
    n / 36524 = n / 146096 + c ∧ n / 1460 = 25 * c + (q + k) := by
  obtain ⟨hc, hq, ht, hd, leap, total⟩ := h
  obtain ⟨w, hw⟩ : ∃ w, w = 24 * c + q + 365 * t + d := ⟨_, rfl⟩
  have carry : w / 1460 = 0 ∧ w < 1460 ∨ w / 1460 = 1 ∧ 1460 ≤ w := by omega
  refine ⟨w / 1460, by omega, by omega, ?_, ?_⟩
  · obtain ⟨e, he⟩ : ∃ e, e = 1461 * q + (365 * t + d) := ⟨_, rfl⟩
    have last : e < 36524 ∨ e = 36524 ∧ c = 3 := by omega
    rw [← he] at total
    clear leap hw carry he
    omega
  · have split : n = w + 1460 * (25 * c + q) := by omega
    rw [split, Nat.add_mul_div_left _ _ (by decide)]
    omega

theorem InCycle.yearOfCycle (h : InCycle n c q t d) :
    (n - n / 1460 + n / 36524 - n / 146096) / 365 = 100 * c + 4 * q + t := by
  obtain ⟨k, small, rest, centuries, fours⟩ := h.ahead
  have days : n - n / 1460 + n / 36524 - n / 146096 =
      (d - k) + 365 * (100 * c + 4 * q + t) := by
    rw [centuries, fours, h.total]
    omega
  rw [days, Nat.add_mul_div_left _ _ (by decide), Nat.div_eq_of_lt rest, Nat.zero_add]

/-- The days before a year of the cycle. -/
theorem InCycle.daysBefore (h : InCycle n c q t d) :
    365 * (100 * c + 4 * q + t) + (100 * c + 4 * q + t) / 4 - (100 * c + 4 * q + t) / 100 =
      36524 * c + 1461 * q + 365 * t := by
  obtain ⟨hc, hq, ht, -, -, -⟩ := h
  have fours : (100 * c + 4 * q + t) / 4 = 25 * c + q := by omega
  have hundreds : (100 * c + 4 * q + t) / 100 = c := by omega
  omega

/-- A day behind the 365th belongs to a year that ends in a leap year's February. -/
theorem InCycle.isLeapYear (h : InCycle n c q t d) (last : d = 365) (cycle : ℤ) :
    isLeapYear ((100 * c + 4 * q + t : ℕ) + cycle * 400 + 1) = true := by
  obtain ⟨hc, hq, ht, -, leap, -⟩ := h
  obtain ⟨rfl, century⟩ := leap last
  have four : ((100 * c + 4 * q + 3 : ℕ) + cycle * 400 + 1) % 4 = 0 := by omega
  have hundred : ((100 * c + 4 * q + 3 : ℕ) + cycle * 400 + 1) % 100 ≠ 0 ∨
      ((100 * c + 4 * q + 3 : ℕ) + cycle * 400 + 1) % 400 = 0 := by
    by_cases hq' : q = 24
    · have := century hq'
      exact .inr (by omega)
    · exact .inl (by omega)
  simp only [Date.isLeapYear, four, decide_true, Bool.true_and, Bool.or_eq_true,
    decide_eq_true_eq]
  exact hundred

end InCycle

/-! ## Months -/

/-- The months, counted from March. -/
def monthFromMarch (day : ℕ) : ℕ := (5 * day + 2) / 153

theorem monthFromMarch_lt {day : ℕ} (h : day ≤ 365) : monthFromMarch day < 12 := by
  unfold monthFromMarch
  omega

theorem daysBeforeMonth_le (day : ℕ) : daysBeforeMonth (monthFromMarch day) ≤ day := by
  unfold daysBeforeMonth monthFromMarch
  omega

theorem lt_daysBeforeMonth_succ (day : ℕ) : day < daysBeforeMonth (monthFromMarch day + 1) := by
  unfold daysBeforeMonth monthFromMarch
  omega

/-- A month has as many days as there are until the next one. Only February has fewer. -/
theorem daysBeforeMonth_succ {m : ℕ} (h : m < 11) (year : ℤ) :
    daysBeforeMonth (m + 1) =
      daysBeforeMonth m + daysInMonth year (if m < 10 then m + 3 else m - 9) := by
  interval_cases m <;> rfl

/-- A day of a year that begins in March is a day of its month. -/
theorem day_le_daysInMonth {day : ℕ} (h : day ≤ 365) {year : ℤ}
    (leap : day = 365 → isLeapYear year = true) : day - daysBeforeMonth (monthFromMarch day) + 1 ≤
      daysInMonth year (if monthFromMarch day < 10 then monthFromMarch day + 3
        else monthFromMarch day - 9) := by
  have low := daysBeforeMonth_le day
  have high := lt_daysBeforeMonth_succ day
  have bound := monthFromMarch_lt h
  by_cases february : monthFromMarch day = 11
  · rw [february] at low ⊢
    have start : daysBeforeMonth 11 = 337 := rfl
    rw [start] at low ⊢
    simp only [daysInMonth, Nat.reduceLT, if_false, Nat.reduceSub, if_true]
    by_cases last : day = 365
    · rw [leap last, last]
      rfl
    · split <;> omega
  · rw [daysBeforeMonth_succ (by omega) year] at high
    omega

theorem daysInMonth_le (year : ℤ) (month : ℕ) : daysInMonth year month ≤ 31 := by
  unfold daysInMonth
  split_ifs <;> decide

/-! ## Dates -/

theorem bounds_of_isValid {d : Date} (h : d.isValid = true) :
    (1 ≤ d.month ∧ d.month ≤ 12) ∧ 1 ≤ d.day ∧ d.day ≤ 31 := by
  simp only [isValid, Bool.and_eq_true, decide_eq_true_eq] at h
  have := daysInMonth_le d.year d.month
  omega

/-- The parts of a date, by its cycle and its day in the cycle. -/
theorem ofDays_eq {n : ℤ} {c q t d : ℕ}
    (h : InCycle ((n + epoch) % 146097).toNat c q t d) : ofDays n =
      { year := (100 * c + 4 * q + t : ℕ) + (n + epoch) / 146097 * 400 +
          (if monthFromMarch d < 10 then 0 else 1)
        month := if monthFromMarch d < 10 then monthFromMarch d + 3 else monthFromMarch d - 9
        day := d - daysBeforeMonth (monthFromMarch d) + 1 } := by
  have day : ((n + epoch) % 146097).toNat - (36524 * c + 1461 * q + 365 * t) = d := by
    rw [h.total]
    omega
  simp only [ofDays, h.yearOfCycle, h.daysBefore, day, ← monthFromMarch.eq_1]
  split <;> simp

theorem exists_inCycle_day (n : ℤ) :
    ∃ c q t d, InCycle ((n + epoch) % 146097).toNat c q t d :=
  exists_inCycle (by omega)

/-- The date of a day is a date of the calendar. -/
theorem isValid_ofDays (n : ℤ) : (ofDays n).isValid = true := by
  obtain ⟨c, q, t, d, h⟩ := exists_inCycle_day n
  have bound := monthFromMarch_lt h.days
  rw [ofDays_eq h]
  simp only [isValid, Bool.and_eq_true, decide_eq_true_eq]
  refine ⟨⟨⟨?_, ?_⟩, Nat.le_add_left _ _⟩, day_le_daysInMonth h.days fun last => ?_⟩
  · split <;> omega
  · split <;> omega
  · have january : ¬ monthFromMarch d < 10 := by
      subst last
      decide
    rw [if_neg january]
    exact h.isLeapYear last _

/-- A day is told by its date. -/
theorem toDays_ofDays (n : ℤ) : (ofDays n).toDays = n := by
  obtain ⟨c, q, t, d, h⟩ := exists_inCycle_day n
  have bound := monthFromMarch_lt h.days
  have low := daysBeforeMonth_le d
  have month : (if (ofDays n).month ≤ 2 then (ofDays n).month + 9 else (ofDays n).month - 3) =
      monthFromMarch d := by
    rw [ofDays_eq h]
    dsimp only
    split_ifs <;> omega
  have year : (if (ofDays n).month ≤ 2 then (ofDays n).year - 1 else (ofDays n).year) =
      (100 * c + 4 * q + t : ℕ) + (n + epoch) / 146097 * 400 := by
    rw [ofDays_eq h]
    dsimp only
    split_ifs <;> omega
  have before : daysBeforeYear ((100 * c + 4 * q + t : ℕ) + (n + epoch) / 146097 * 400) =
      (36524 * c + 1461 * q + 365 * t : ℕ) + (n + epoch) / 146097 * 146097 := by
    have days := h.daysBefore
    obtain ⟨hc, hq, ht, -, -, -⟩ := h
    unfold daysBeforeYear
    omega
  have day : (ofDays n).day = d - daysBeforeMonth (monthFromMarch d) + 1 := by
    rw [ofDays_eq h]
  have total := h.total
  simp only [toDays, month, year, before, day]
  omega

end BrokerPool.Date
