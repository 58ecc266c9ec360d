import Paydesk.Instant.Calendar
import Mathlib.Data.Int.Basic
import Mathlib.Tactic.IntervalCases

/-!
# Days and dates

Counting days and naming them are inverse to one another: the date of a number of days exists
(`Date.isValid_ofDays`) and counts that many days (`Date.toDays_ofDays`).

Years begin in March here. A day is taken apart into its four hundred years, its century, its four
years, its year and its place there (`MarchDay`). Every part but the last is a division with a
remainder, except that a 29th of February is the 366th day of a year that the division would give
365 (`MarchDay.leap`); the corrections in the year of a day (`MarchDay.year_eq`) are for these days.
-/

namespace Paydesk

/-- A day by the parts of its time since the first of March of the year zero. -/
structure MarchDay where
  cycle : Int
  century : Nat
  quad : Nat
  year : Nat
  day : Nat
  century_lt : century < 4
  quad_lt : quad < 25
  year_lt : year < 4
  day_le : day ≤ 365
  /-- The last day of a long year, which the last of four years is, but only every fourth century
  ends with one. -/
  leap : day = 365 → year = 3 ∧ (quad = 24 → century = 3)

namespace MarchDay

/-- The years since the four hundred years began. -/
def yearOfCycle (p : MarchDay) : Nat :=
  100 * p.century + 4 * p.quad + p.year

/-- The days since the four hundred years began. -/
def dayOfCycle (p : MarchDay) : Nat :=
  36524 * p.century + (1461 * p.quad + 365 * p.year + p.day)

def days (p : MarchDay) : Int :=
  p.cycle * 146097 + p.dayOfCycle - Date.epochOffset

/-- The months since March. -/
def months (p : MarchDay) : Nat :=
  (5 * p.day + 2) / 153

def date (p : MarchDay) : Date :=
  let month := if p.months < 10 then p.months + 3 else p.months - 9
  let year := p.cycle * 400 + p.yearOfCycle
  { year := if month ≤ 2 then year + 1 else year
    month := month
    day := p.day - (153 * p.months + 2) / 5 + 1 }

/-! ## Bounds -/

theorem yearOfCycle_lt (p : MarchDay) : p.yearOfCycle < 400 := by
  have := p.century_lt
  have := p.quad_lt
  have := p.year_lt
  unfold yearOfCycle
  omega

theorem dayOfCentury_le (p : MarchDay) : 1461 * p.quad + 365 * p.year + p.day ≤ 36524 := by
  have := p.quad_lt
  have := p.year_lt
  have := p.day_le
  omega

theorem dayOfCycle_lt (p : MarchDay) : p.dayOfCycle < 146097 := by
  have := p.century_lt
  have := p.dayOfCentury_le
  unfold dayOfCycle
  omega

theorem months_lt (p : MarchDay) : p.months < 12 := by
  have := p.day_le
  unfold months
  omega

/-! ## Every day has its parts -/

theorem exists_century {d : Nat} (h : d < 146097) :
    ∃ c r, d = 36524 * c + r ∧ c < 4 ∧ r ≤ 36524 ∧ (r = 36524 → c = 3) :=
  ⟨min (d / 36524) 3, d - 36524 * min (d / 36524) 3, by omega, by omega, by omega, by omega⟩

theorem exists_year {s : Nat} (h : s < 1461) :
    ∃ t u, s = 365 * t + u ∧ t < 4 ∧ u ≤ 365 ∧ (u = 365 → t = 3) :=
  ⟨min (s / 365) 3, s - 365 * min (s / 365) 3, by omega, by omega, by omega, by omega⟩

theorem exists_days (days : Int) : ∃ p : MarchDay, p.days = days := by
  have hbounds : 0 ≤ (days + Date.epochOffset) % 146097 ∧
      (days + Date.epochOffset) % 146097 < 146097 :=
    ⟨Int.emod_nonneg _ (by decide), Int.emod_lt_of_pos _ (by decide)⟩
  obtain ⟨c, r, hday, hc, hr, hlast⟩ :=
    exists_century (d := ((days + Date.epochOffset) % 146097).toNat) (by omega)
  obtain ⟨t, u, hs, ht, hu, hleap⟩ := exists_year (Nat.mod_lt r (show 0 < 1461 by decide))
  refine ⟨⟨(days + Date.epochOffset) / 146097, c, r / 1461, t, u, hc, by omega, ht, hu, ?_⟩, ?_⟩
  · intro hlong
    exact ⟨hleap hlong, by omega⟩
  · have hdivmod := Int.mul_ediv_add_emod (days + Date.epochOffset) 146097
    simp only [MarchDay.days, dayOfCycle]
    omega

/-! ## The year of a day -/

theorem div_of_lt {n y z : Nat} (h : z < n) : (n * y + z) / n = y := by
  rw [Nat.mul_add_div (Nat.zero_lt_of_lt h), Nat.div_eq_of_lt h, Nat.add_zero]

/-- Dividing by four years without their leap day gives at most one too many, and only late in a
year. -/
theorem exists_carry (p : MarchDay) :
    ∃ carry, p.dayOfCycle / 1460 = 25 * p.century + p.quad + carry ∧ carry ≤ p.day ∧
      p.day - carry < 365 := by
  obtain ⟨-, c, q, t, u, hc, hq, ht, hu, hleap⟩ := p
  have hyear : u = 365 → t = 3 := fun h => (hleap h).1
  have hsplit : 36524 * c + (1461 * q + 365 * t + u) =
      1460 * (25 * c + q) + (24 * c + q + 365 * t + u) := by omega
  simp only [dayOfCycle]
  rw [hsplit, Nat.mul_add_div (by decide)]
  by_cases hsmall : 24 * c + q + 365 * t + u < 1460
  · exact ⟨0, by rw [Nat.div_eq_of_lt hsmall], Nat.zero_le u, by omega⟩
  · have hone : (24 * c + q + 365 * t + u) / 1460 = 1 :=
      Nat.div_eq_of_lt_le (by omega) (by omega)
    exact ⟨1, by rw [hone], by omega, by omega⟩

/-- Dividing by centuries without a leap day at their end gives one too many on the last of all
days. -/
theorem exists_last (p : MarchDay) :
    ∃ last, p.dayOfCycle / 146096 = last ∧ p.dayOfCycle / 36524 = p.century + last := by
  obtain ⟨-, c, q, t, u, hc, hq, ht, hu, hleap⟩ := p
  simp only [dayOfCycle]
  by_cases hend : 1461 * q + 365 * t + u = 36524
  · obtain rfl : c = 3 := (hleap (by omega)).2 (by omega)
    rw [hend]
    exact ⟨1, rfl, rfl⟩
  · exact ⟨0, Nat.div_eq_of_lt (by omega), div_of_lt (by omega)⟩

theorem year_eq (p : MarchDay) :
    (p.dayOfCycle - p.dayOfCycle / 1460 + p.dayOfCycle / 36524 - p.dayOfCycle / 146096) / 365 =
      p.yearOfCycle := by
  obtain ⟨carry, hfour, hcarry, hsmall⟩ := p.exists_carry
  obtain ⟨last, hlast, hcentury⟩ := p.exists_last
  have hsum : p.dayOfCycle - (25 * p.century + p.quad + carry) + (p.century + last) - last =
      365 * p.yearOfCycle + (p.day - carry) := by
    unfold dayOfCycle yearOfCycle
    omega
  rw [hfour, hcentury, hlast, hsum, div_of_lt hsmall]

/-- Before a year lie the days of the years before it and their leap days. -/
theorem dayOfCycle_eq (p : MarchDay) :
    p.dayOfCycle = 365 * p.yearOfCycle + p.yearOfCycle / 4 - p.yearOfCycle / 100 + p.day := by
  have hfour : p.yearOfCycle / 4 = 25 * p.century + p.quad := by
    have := p.year_lt
    unfold yearOfCycle
    omega
  have hcentury : p.yearOfCycle / 100 = p.century := by
    have := p.quad_lt
    have := p.year_lt
    unfold yearOfCycle
    omega
  rw [hfour, hcentury]
  unfold dayOfCycle yearOfCycle
  omega

/-! ## The date of a day -/

theorem ofDays_days (p : MarchDay) : Date.ofDays p.days = p.date := by
  have hlt := p.dayOfCycle_lt
  have hshifted : p.days + Date.epochOffset = p.cycle * 146097 + p.dayOfCycle := by
    unfold days
    omega
  have hcycle : (p.cycle * 146097 + (p.dayOfCycle : Int)) / 146097 = p.cycle := by omega
  have hday : ((p.cycle * 146097 + (p.dayOfCycle : Int)) % 146097).toNat = p.dayOfCycle := by omega
  have hplace : p.dayOfCycle - (365 * p.yearOfCycle + p.yearOfCycle / 4 - p.yearOfCycle / 100) =
      p.day := Nat.sub_eq_of_eq_add' p.dayOfCycle_eq
  simp only [Date.ofDays, hshifted, hcycle, hday, year_eq, hplace]
  rfl

/-- The days of the months before fit. -/
theorem monthStart_le (p : MarchDay) : (153 * p.months + 2) / 5 ≤ p.day := by
  unfold months
  omega

theorem toDays_date (p : MarchDay) : p.date.toDays = p.days := by
  have hmonths := p.months_lt
  have hyears := p.yearOfCycle_lt
  have hstart := p.monthStart_le
  have hday := p.dayOfCycle_eq
  have hyear : (if p.date.month ≤ 2 then p.date.year - 1 else p.date.year) =
      p.cycle * 400 + p.yearOfCycle := by
    simp only [date]
    split <;> omega
  have hmonth : ((p.date.month : Int) + 9) % 12 = p.months := by
    simp only [date]
    split <;> omega
  have hcycle : (p.cycle * 400 + (p.yearOfCycle : Int)) / 400 = p.cycle := by omega
  have hrest : (p.cycle * 400 + (p.yearOfCycle : Int)) % 400 = p.yearOfCycle := by omega
  have hplace : p.date.day = p.day - (153 * p.months + 2) / 5 + 1 := rfl
  simp only [Date.toDays, hyear, hmonth, hcycle, hrest, hplace, days]
  omega

theorem isLeapYear_of_day_eq {p : MarchDay} (h : p.day = 365) :
    Date.isLeapYear (p.cycle * 400 + p.yearOfCycle + 1) = true := by
  obtain ⟨hyear, hcentury⟩ := p.leap h
  have := p.quad_lt
  have hfour : (p.cycle * 400 + (p.yearOfCycle : Int) + 1) % 4 = 0 := by
    unfold yearOfCycle
    omega
  have hhundred : (p.cycle * 400 + (p.yearOfCycle : Int) + 1) % 100 ≠ 0 ∨
      (p.cycle * 400 + (p.yearOfCycle : Int) + 1) % 400 = 0 := by
    unfold yearOfCycle
    omega
  simpa [Date.isLeapYear, hfour] using hhundred

/-- No month is longer than the time up to the next one, and February ends with the year. -/
theorem day_le_monthLength (p : MarchDay) :
    p.date.day ≤ Date.monthLength p.date.year p.date.month := by
  have hmonths := p.months_lt
  have hday := p.day_le
  have hplace : 153 * p.months ≤ 5 * p.day + 2 ∧ 5 * p.day + 2 < 153 * (p.months + 1) := by
    unfold months
    omega
  by_cases hlast : p.months = 11
  · simp only [date, hlast, Date.monthLength]
    by_cases hlong : p.day = 365
    · simp [isLeapYear_of_day_eq hlong, hlong]
    · have hshort : p.day - 337 + 1 ≤ 28 := by omega
      simp only [Nat.reduceLT, if_false, Nat.reduceSub, Nat.reduceLeDiff, if_true]
      split <;> omega
  · simp only [date]
    generalize p.months = m at hmonths hplace hlast
    interval_cases m <;> simp [Date.monthLength] <;> omega

theorem isValid_date (p : MarchDay) : p.date.isValid = true := by
  have hmonths := p.months_lt
  have hmonth : 1 ≤ p.date.month ∧ p.date.month ≤ 12 := by
    simp only [date]
    split <;> omega
  have hday : 1 ≤ p.date.day := Nat.succ_le_succ (Nat.zero_le _)
  simp [Date.isValid, hmonth, hday, p.day_le_monthLength]

end MarchDay

namespace Date

theorem toDays_ofDays (days : Int) : (ofDays days).toDays = days := by
  obtain ⟨p, rfl⟩ := MarchDay.exists_days days
  rw [p.ofDays_days, p.toDays_date]

theorem isValid_ofDays (days : Int) : (ofDays days).isValid = true := by
  obtain ⟨p, rfl⟩ := MarchDay.exists_days days
  rw [p.ofDays_days, p.isValid_date]

end Date

end Paydesk
