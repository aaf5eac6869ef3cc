import FilterStore.Calendar.Instant

/-!
# Days and dates

Counting days is easy in years that start in March, because the leap day is then the last day of its
year and months before it are not moved by it.  Such a *March year* and a day within it are what a
date is made from and what a date is read back as, so that both conversions are sums of the same
parts: cycles of 400 years, centuries, four years, years and days.

Dividing yields these parts again as long as each is in its range.  Two ranges are cut off: the
last century of a cycle and the last year of four are a day longer than the others, and only these
hold a 366th day (`InCycle.leap`).  That is when February has 29 days.
-/

namespace FilterStore.Calendar

/-! ## The parts of a day -/

/-- A day within a cycle of 400 years: whole centuries, whole fours of years, whole years, and the
day of the year that is left. -/
structure InCycle (n century quad single inYear : Nat) : Prop where
  sum : n = century * 36524 + quad * 1461 + single * 365 + inYear
  century_le : century ≤ 3
  quad_le : quad ≤ 24
  single_le : single ≤ 3
  inYear_le : inYear ≤ 365
  /-- Only the last year of four has a last day, and not every hundredth year. -/
  leap : inYear = 365 → single = 3 ∧ (quad = 24 → century = 3)

theorem inCycle_of_lt {n : Nat} (h : n < 146097) :
    let century := min 3 (n / 36524)
    let inCentury := n - century * 36524
    let quad := inCentury / 1461
    let inQuad := inCentury - quad * 1461
    let single := min 3 (inQuad / 365)
    InCycle n century quad single (inQuad - single * 365) := by
  intro century inCentury quad inQuad single
  have hcentury : century ≤ 3 ∧ n = century * 36524 + inCentury ∧ inCentury ≤ 36524 ∧
      (inCentury = 36524 → century = 3) := by omega
  have hquad : quad ≤ 24 ∧ inCentury = quad * 1461 + inQuad ∧ inQuad ≤ 1460 := by omega
  have hsingle : single ≤ 3 ∧ inQuad = single * 365 + (inQuad - single * 365) ∧
      inQuad - single * 365 ≤ 365 ∧ (inQuad - single * 365 = 365 → single = 3) := by omega
  constructor <;> omega

/-- The date of a day of a month of a March year.  The tenth month and the one behind it are January
and February of the next year. -/
def Date.ofMarch (marchYear : Int) (month day : Nat) : Date :=
  { year := if month < 10 then marchYear else marchYear + 1
    month := if month < 10 then month + 3 else month - 9
    day := day }

/-- A day of a March year by its month: `start` days of the year are over when the month starts. -/
structure InMonth (inYear month start : Nat) : Prop where
  month_eq : month = (5 * inYear + 2) / 153
  start_eq : start = (153 * month + 2) / 5
  inYear_le : inYear ≤ 365

theorem InMonth.start_le {inYear month start : Nat} (h : InMonth inYear month start) :
    start ≤ inYear ∧ month ≤ 11 := by
  obtain ⟨month_eq, start_eq, inYear_le⟩ := h
  omega

/-- Every day is a day of some month of some March year. -/
theorem Date.exists_ofMarch (days : Int) :
    ∃ (cycle : Int) (n century quad single inYear month start : Nat),
      days = cycle * daysPerCycle + n - marchOffset ∧ InCycle n century quad single inYear ∧
        InMonth inYear month start ∧
          Date.ofDays days = Date.ofMarch
            (cycle * 400 + (century * 100 + quad * 4 + single : Nat)) month
              (inYear - start + 1) := by
  let shifted := days + marchOffset
  have nonneg : 0 ≤ shifted % daysPerCycle := Int.emod_nonneg shifted (by decide)
  have hlt : (shifted % daysPerCycle).toNat < 146097 := by
    have upper : shifted % daysPerCycle < daysPerCycle := Int.emod_lt_of_pos shifted (by decide)
    simp only [daysPerCycle] at nonneg upper ⊢
    omega
  have parts := inCycle_of_lt hlt
  refine ⟨shifted / daysPerCycle, (shifted % daysPerCycle).toNat, _, _, _, _, _, _, ?_, parts,
    ⟨rfl, rfl, parts.inYear_le⟩, ?_⟩
  · have split : shifted / daysPerCycle * daysPerCycle + shifted % daysPerCycle = shifted :=
      Int.ediv_mul_add_emod shifted daysPerCycle
    rw [Int.toNat_of_nonneg nonneg, split]
    exact (Int.add_sub_cancel days marchOffset).symm
  · rfl

/-! ## From a date to its day -/

/-- The date of a day of a March year is counted back to that day. -/
theorem Date.toDays_ofMarch {cycle : Int} {n century quad single inYear month start : Nat}
    (h : InCycle n century quad single inYear) (hm : InMonth inYear month start) :
    (Date.ofMarch (cycle * 400 + (century * 100 + quad * 4 + single : Nat)) month
      (inYear - start + 1)).toDays = cycle * daysPerCycle + n - marchOffset := by
  obtain ⟨started, hmonth⟩ := hm.start_le
  have hstart := hm.start_eq
  obtain ⟨sum, hcentury, hquad, hsingle, hinYear, -⟩ := h
  have cycles : (cycle * 400 + (century * 100 + quad * 4 + single : Nat)) / 400 = cycle := by omega
  have years : ((cycle * 400 + ((century * 100 + quad * 4 + single : Nat) : Int)) % 400).toNat =
      century * 100 + quad * 4 + single := by omega
  have count : (century * 100 + quad * 4 + single) * 365 +
      (century * 100 + quad * 4 + single) / 4 - (century * 100 + quad * 4 + single) / 100 +
        ((153 * month + 2) / 5 + (inYear - start + 1) - 1) = n := by omega
  by_cases early : month < 10
  · have months : (month + 3 + 9) % 12 = month := by omega
    have behind : ¬ month + 3 ≤ 2 := by omega
    simp only [Date.ofMarch, if_pos early, Date.toDays, if_neg behind, months, cycles, years, count]
  · have months : (month - 9 + 9) % 12 = month := by omega
    have before : month - 9 ≤ 2 := by omega
    simp only [Date.ofMarch, if_neg early, Date.toDays, if_pos before, months,
      Int.add_sub_cancel, cycles, years, count]

/-- **The date of a day is counted back to that day.** -/
theorem Date.toDays_ofDays (days : Int) : (Date.ofDays days).toDays = days := by
  obtain ⟨cycle, n, century, quad, single, inYear, month, start, sum, parts, inMonth, date⟩ :=
    Date.exists_ofMarch days
  rw [date, Date.toDays_ofMarch parts inMonth, sum]

/-! ## Dates of days are dates -/

theorem isLeapYear_iff (year : Int) :
    isLeapYear year = true ↔ year % 4 = 0 ∧ (year % 100 ≠ 0 ∨ year % 400 = 0) := by
  simp [isLeapYear]

/-- The date of a day of a March year has a month of twelve and a day of that month. -/
theorem Date.isValid_ofMarch {cycle : Int} {n century quad single inYear month start : Nat}
    (h : InCycle n century quad single inYear) (hm : InMonth inYear month start) :
    (Date.ofMarch (cycle * 400 + (century * 100 + quad * 4 + single : Nat)) month
      (inYear - start + 1)).isValid = true := by
  obtain ⟨started, hmonth⟩ := hm.start_le
  obtain ⟨month_eq, start_eq, -⟩ := hm
  obtain ⟨-, hcentury, hquad, hsingle, hinYear, leap⟩ := h
  by_cases early : month < 10
  · simp only [Date.ofMarch, if_pos early]
    have days : inYear - start + 1 ≤
        daysInMonth (cycle * 400 + (century * 100 + quad * 4 + single : Nat)) (month + 3) := by
      unfold daysInMonth
      split <;> (try split) <;> omega
    simp only [Date.isValid, Bool.and_eq_true, decide_eq_true_eq]
    omega
  · simp only [Date.ofMarch, if_neg early]
    have days : inYear - start + 1 ≤
        daysInMonth (cycle * 400 + (century * 100 + quad * 4 + single : Nat) + 1) (month - 9) := by
      unfold daysInMonth
      split
      · -- A year with a last day in its March year is a leap year.
        have leaps : inYear = 365 →
            isLeapYear (cycle * 400 + (century * 100 + quad * 4 + single : Nat) + 1) = true := by
          intro last
          rw [isLeapYear_iff]
          obtain ⟨rfl, ends⟩ := leap last
          omega
        split
        · omega
        · rename_i common
          have short : inYear ≠ 365 := fun last => common (leaps last)
          omega
      · split <;> omega
    simp only [Date.isValid, Bool.and_eq_true, decide_eq_true_eq]
    omega

theorem Date.isValid_ofDays (days : Int) : (Date.ofDays days).isValid = true := by
  obtain ⟨cycle, n, century, quad, single, inYear, month, start, -, parts, inMonth, date⟩ :=
    Date.exists_ofMarch days
  rw [date]
  exact Date.isValid_ofMarch parts inMonth

/-! ## The day that days are counted from -/

/-- The first second of 1970. -/
def Instant.epoch : Instant := ⟨0, 0, by decide, by decide, by decide, by decide⟩

end FilterStore.Calendar
