import Mathlib.Tactic.IntervalCases

namespace AppStream

/-- A proleptic Gregorian date, the calendar of `GDateTime`. -/
structure CivilDate where
  year : Nat
  month : Nat
  day : Nat
  deriving DecidableEq, Repr

def isLeapYear (y : Nat) : Bool := y % 4 = 0 && (y % 100 ≠ 0 || y % 400 = 0)

def daysInMonth (y m : Nat) : Nat :=
  match m with
  | 2 => if isLeapYear y then 29 else 28
  | 4 | 6 | 9 | 11 => 30
  | _ => 31

def CivilDate.Valid (c : CivilDate) : Prop :=
  1 ≤ c.month ∧ c.month ≤ 12 ∧ 1 ≤ c.day ∧ c.day ≤ daysInMonth c.year c.month

instance (c : CivilDate) : Decidable c.Valid :=
  inferInstanceAs (Decidable (1 ≤ c.month ∧ c.month ≤ 12 ∧ 1 ≤ c.day ∧ c.day ≤ daysInMonth c.year c.month))

/-- Days from 0000-03-01 to the first of March of year `y`. -/
def marchYearStart (y : Nat) : Nat := 365 * y + y / 4 - y / 100 + y / 400

/-- Split a day count from 0000-03-01 into its March-based year and the day within it,
through whole 400-, 100-, 4- and 1-year cycles; the last year of a cycle holds its extra day. -/
def yearCycles (n : Nat) : Nat × Nat :=
  let r400 := n % 146097
  let q100 := min (r400 / 36524) 3
  let r100 := r400 - 36524 * q100
  let r4 := r100 % 1461
  let q1 := min (r4 / 365) 3
  (400 * (n / 146097) + 100 * q100 + 4 * (r100 / 1461) + q1, r4 - 365 * q1)

/-- The date of day `n` counted from 0000-03-01; a March-based year's January and February
belong to the next civil year. -/
def civilOfDays (n : Nat) : CivilDate :=
  let y := (yearCycles n).1
  let doy := (yearCycles n).2
  let mp := (5 * doy + 2) / 153
  let d := doy - (153 * mp + 2) / 5 + 1
  if mp < 10 then ⟨y, mp + 3, d⟩ else ⟨y + 1, mp - 9, d⟩

def daysOfCivil (c : CivilDate) : Nat :=
  let y := if c.month ≤ 2 then c.year - 1 else c.year
  let mp := if c.month ≤ 2 then c.month + 9 else c.month - 3
  marchYearStart y + (153 * mp + 2) / 5 + c.day - 1

theorem marchYearStart_cycles (a b c d : Nat) (hb : b ≤ 3) (hc : c ≤ 24) (hd : d ≤ 3) :
    marchYearStart (400 * a + 100 * b + 4 * c + d) = 146097 * a + 36524 * b + 1461 * c + 365 * d := by
  have h4 : (400 * a + 100 * b + 4 * c + d) / 4 = 100 * a + 25 * b + c := by omega
  have h100 : (400 * a + 100 * b + 4 * c + d) / 100 = 4 * a + b := by omega
  have h400 : (400 * a + 100 * b + 4 * c + d) / 400 = a := by omega
  simp only [marchYearStart, h4, h100, h400]
  omega

theorem yearCycles_start (n : Nat) : marchYearStart (yearCycles n).1 + (yearCycles n).2 = n := by
  have hb : min (n % 146097 / 36524) 3 ≤ 3 := min_le_right _ _
  have hc : (n % 146097 - 36524 * min (n % 146097 / 36524) 3) / 1461 ≤ 24 := by omega
  have hd : min ((n % 146097 - 36524 * min (n % 146097 / 36524) 3) % 1461 / 365) 3 ≤ 3 :=
    min_le_right _ _
  simp only [yearCycles, marchYearStart_cycles _ _ _ _ hb hc hd]
  omega

theorem yearCycles_day_le (n : Nat) : (yearCycles n).2 ≤ 365 := by
  simp only [yearCycles]
  omega

/-- Day 365 of a March-based year exists only when the following February has 29 days. -/
theorem yearCycles_leap (n : Nat) (h : (yearCycles n).2 = 365) :
    isLeapYear ((yearCycles n).1 + 1) = true := by
  simp only [yearCycles] at *
  simp only [isLeapYear, Bool.and_eq_true, Bool.or_eq_true, decide_eq_true_eq, ne_eq]
  omega

theorem marchYearStart_succ (y : Nat) : marchYearStart y + 364 ≤ marchYearStart (y + 1) := by
  simp only [marchYearStart]
  omega

theorem marchYearStart_le {y z : Nat} (h : y ≤ z) : marchYearStart y ≤ marchYearStart z := by
  induction z, h using Nat.le_induction with
  | base => exact le_rfl
  | succ z _ ih => exact ih.trans (by have := marchYearStart_succ z; omega)

theorem daysOfCivil_civilOfDays (n : Nat) : daysOfCivil (civilOfDays n) = n := by
  have hs := yearCycles_start n
  have hd := yearCycles_day_le n
  simp only [civilOfDays, daysOfCivil]
  generalize (yearCycles n).1 = y at hs
  generalize (yearCycles n).2 = doy at hs hd
  split
  · simp only [show ¬(5 * doy + 2) / 153 + 3 ≤ 2 by omega, if_false, Nat.add_sub_cancel]
    omega
  · simp only [show (5 * doy + 2) / 153 - 9 ≤ 2 by omega, if_true, Nat.add_sub_cancel,
      show (5 * doy + 2) / 153 - 9 + 9 = (5 * doy + 2) / 153 by omega]
    omega

theorem civilOfDays_valid (n : Nat) : (civilOfDays n).Valid := by
  have hd := yearCycles_day_le n
  have hleap := yearCycles_leap n
  simp only [civilOfDays]
  generalize (yearCycles n).2 = doy at hd hleap
  generalize (yearCycles n).1 = y at hleap
  have hmp : (5 * doy + 2) / 153 ≤ 11 := by omega
  split
  · simp only [CivilDate.Valid]
    interval_cases h : (5 * doy + 2) / 153 <;> simp [daysInMonth] <;> omega
  · simp only [CivilDate.Valid]
    interval_cases h : (5 * doy + 2) / 153
    · simp [daysInMonth]; omega
    · by_cases hl : doy = 365
      · simp [daysInMonth, hleap hl]; omega
      · simp [daysInMonth]; split <;> omega

theorem daysInMonth_le (y m : Nat) : daysInMonth y m ≤ 31 := by
  unfold daysInMonth
  split <;> (try split) <;> omega

/-- Days 306 and 3652364 from 0000-03-01 are 0001-01-01 and 9999-12-31, `GDateTime`'s range. -/
theorem civilOfDays_year_bounds {n : Nat} (h1 : 306 ≤ n) (h2 : n ≤ 3652364) :
    1 ≤ (civilOfDays n).year ∧ (civilOfDays n).year ≤ 9999 := by
  have hs := yearCycles_start n
  have hd := yearCycles_day_le n
  have hy : (yearCycles n).1 ≤ 9999 := by
    by_contra hc
    have := marchYearStart_le (show 10000 ≤ (yearCycles n).1 by omega)
    have h10000 : marchYearStart 10000 = 3652425 := rfl
    omega
  have hlast : (yearCycles n).1 = 9999 → (yearCycles n).2 ≤ 305 := by
    intro he
    have h9999 : marchYearStart 9999 = 3652059 := rfl
    rw [he] at hs
    omega
  have hfirst : (yearCycles n).1 = 0 → 306 ≤ (yearCycles n).2 := by
    intro he
    rw [he] at hs
    simp only [marchYearStart] at hs
    omega
  simp only [civilOfDays]
  split <;> simp only [] <;> omega

theorem daysOfCivil_bounds {c : CivilDate} (hv : c.Valid) (h1 : 1 ≤ c.year) (h2 : c.year ≤ 9999) :
    306 ≤ daysOfCivil c ∧ daysOfCivil c ≤ 3652364 := by
  have hday := daysInMonth_le c.year c.month
  obtain ⟨hm1, hm2, hd1, hd2⟩ := hv
  simp only [daysOfCivil]
  by_cases hm : c.month ≤ 2
  · have hle := marchYearStart_le (show c.year - 1 ≤ 9998 by omega)
    have h9998 : marchYearStart 9998 = 3651694 := rfl
    simp only [hm, if_true]
    omega
  · have hle := marchYearStart_le h2
    have hge := marchYearStart_le h1
    have h9999 : marchYearStart 9999 = 3652059 := rfl
    have hone : marchYearStart 1 = 365 := rfl
    simp only [hm, if_false]
    omega

end AppStream
