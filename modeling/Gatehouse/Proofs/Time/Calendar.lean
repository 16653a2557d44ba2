import Mathlib.Tactic.IntervalCases
import Gatehouse.Time.Calendar

/-!
# Gatehouse.Proofs.Time.Calendar

Every number is that of one day, and the day exists. The four hundred years of an era are taken
apart (`At`) into its centuries, the four years of a century, the years of four and the days of a
year. In these terms the leap days that `Date.ofDayNumber` takes out of a day of the era come to a
plain sum (`At.yearOfEra_eq`), and what is left is linear.

* `dayNumber_ofDayNumber`: the day of a number has that number.
* `valid_ofDayNumber`: its month has that day.
-/

namespace Gatehouse.Date

def yearOfEra (doe : Int) : Int := (doe - doe / 1460 + doe / 36524 - doe / 146096) / 365

def dayOfYear (doe : Int) : Int :=
  doe - (365 * yearOfEra doe + yearOfEra doe / 4 - yearOfEra doe / 100)

/-- The day `s` of the year `t` of the four years `q` of the century `c`. Only the last year of four
has a day 365, and of the last four years of a century only those of the last century. -/
structure At (doe c q t s : Int) : Prop where
  eq : doe = 36524 * c + 1461 * q + 365 * t + s
  century : 0 ≤ c ∧ c ≤ 3
  four : 0 ≤ q ∧ q ≤ 24
  year : 0 ≤ t ∧ t ≤ 3
  day : 0 ≤ s ∧ s ≤ 365
  leap : s = 365 → t = 3 ∧ (q = 24 → c = 3)

variable {doe c q t s : Int}

theorem exists_at (h0 : 0 ≤ doe) (h1 : doe < 146097) : ∃ c q t s, At doe c q t s := by
  obtain ⟨c, hc⟩ : ∃ c, c = min 3 (doe / 36524) := ⟨_, rfl⟩
  obtain ⟨r, hr⟩ : ∃ r, r = doe - 36524 * c := ⟨_, rfl⟩
  have hr0 : 0 ≤ r ∧ r ≤ 36524 ∧ (r = 36524 → c = 3) := by omega
  obtain ⟨u, hu⟩ : ∃ u, u = r % 1461 := ⟨_, rfl⟩
  obtain ⟨t, ht⟩ : ∃ t, t = min 3 (u / 365) := ⟨_, rfl⟩
  refine ⟨c, r / 1461, t, u - 365 * t, ?_, ?_, ?_, ?_, ?_, ?_⟩ <;> omega

theorem At.yearOfEra_eq (h : At doe c q t s) : yearOfEra doe = 100 * c + 4 * q + t := by
  obtain ⟨heq, hc, hq, ht, hs, hleap⟩ := h
  -- On the last day of an era the first quotient is one century too many.
  have hcentury : doe / 36524 - doe / 146096 = c := by
    rcases (by omega : c = 0 ∨ c = 1 ∨ c = 2 ∨ c = 3) with rfl | rfl | rfl | rfl <;> omega
  have hfour : doe / 1460 = 25 * c + q + (24 * c + q + 365 * t + s) / 1460 := by omega
  have hcarry : 0 ≤ s - (24 * c + q + 365 * t + s) / 1460 ∧
      s - (24 * c + q + 365 * t + s) / 1460 < 365 := by omega
  simp only [Date.yearOfEra]
  omega

theorem At.dayOfYear_eq (h : At doe c q t s) : dayOfYear doe = s := by
  have hyear := h.yearOfEra_eq
  obtain ⟨heq, hc, hq, ht, hs, hleap⟩ := h
  simp only [Date.dayOfYear, hyear]
  omega

/-- A year of an era has a leap day at its end if the next year of the calendar is a leap year. -/
theorem At.isLeap (h : At doe c q t s) (hs : s = 365) (era : Int) :
    isLeap (yearOfEra doe + era * 400 + 1) = true := by
  have hyear := h.yearOfEra_eq
  obtain ⟨heq, hc, hq, ht, hs, hleap⟩ := h
  have hfour : (yearOfEra doe + era * 400 + 1) % 4 = 0 := by omega
  have hcentury : (yearOfEra doe + era * 400 + 1) % 100 ≠ 0 ∨
      (yearOfEra doe + era * 400 + 1) % 400 = 0 := by omega
  simp only [Date.isLeap, Bool.and_eq_true, Bool.or_eq_true, decide_eq_true_eq]
  exact ⟨hfour, hcentury⟩

/-! ## Months, counted from March -/

def monthOfDay (doy : Int) : Int := (5 * doy + 2) / 153

def dayOfMonth (doy : Int) : Int := doy - (153 * monthOfDay doy + 2) / 5 + 1

theorem ofDayNumber_eq (n : Int) :
    ofDayNumber n =
      let doe := (n + 719468) % 146097
      let doy := dayOfYear doe
      let y := yearOfEra doe + (n + 719468) / 146097 * 400
      if monthOfDay doy < 10 then ⟨y, (monthOfDay doy + 3).toNat, (dayOfMonth doy).toNat⟩
      else ⟨y + 1, (monthOfDay doy - 9).toNat, (dayOfMonth doy).toNat⟩ := rfl

theorem monthOfDay_bounds (h0 : 0 ≤ s) (h1 : s ≤ 365) :
    0 ≤ monthOfDay s ∧ monthOfDay s ≤ 11 ∧ 1 ≤ dayOfMonth s := by
  simp only [dayOfMonth, monthOfDay]
  omega

theorem exists_at_of (n : Int) : ∃ c q t s, At ((n + 719468) % 146097) c q t s :=
  exists_at (by omega) (by omega)

/-- The days before a year, counted from March and by the leap days in it. -/
theorem At.daysBefore (h : At doe c q t s) (era : Int) :
    let y := 100 * c + 4 * q + t + era * 400
    y * 365 + y / 4 - y / 100 + y / 400 = era * 146097 + doe - s := by
  obtain ⟨heq, hc, hq, ht, hs, hleap⟩ := h
  intro y
  have hfour : y / 4 = 25 * c + q + era * 100 := by omega
  have hcentury : y / 100 = c + era * 4 := by omega
  have hera : y / 400 = era := by omega
  rw [hfour, hcentury, hera]
  omega

theorem dayNumber_ofDayNumber (n : Int) : (ofDayNumber n).dayNumber = n := by
  obtain ⟨c, q, t, s, h⟩ := exists_at_of n
  have hbefore := h.daysBefore ((n + 719468) / 146097)
  obtain ⟨hm0, hm1, hd⟩ := monthOfDay_bounds h.day.1 h.day.2
  have hday : (153 * monthOfDay s + 2) / 5 + dayOfMonth s = s + 1 := by
    simp only [dayOfMonth]
    omega
  have hdayCast := Int.toNat_of_nonneg (a := dayOfMonth s) (by omega)
  simp only [ofDayNumber_eq, h.dayOfYear_eq, h.yearOfEra_eq]
  split
  · have hmonth := Int.toNat_of_nonneg (a := monthOfDay s + 3) (by omega)
    have hlate : ¬ (monthOfDay s + 3).toNat ≤ 2 := by omega
    simp only [dayNumber, hlate, if_false, hmonth, hdayCast, Int.add_sub_cancel]
    omega
  · have hmonth := Int.toNat_of_nonneg (a := monthOfDay s - 9) (by omega)
    have hearly : (monthOfDay s - 9).toNat ≤ 2 := by omega
    simp only [dayNumber, hearly, if_true, hmonth, hdayCast, Int.add_sub_cancel,
      Int.sub_add_cancel]
    omega

def marchLength (leap : Bool) (month : Int) : Nat :=
  if month = 11 then (if leap then 29 else 28)
  else if month ∈ [1, 3, 6, 8] then 30 else 31

theorem dayOfMonth_le (h0 : 0 ≤ s) (h1 : s ≤ 365) {leap : Bool} (hleap : s = 365 → leap = true) :
    dayOfMonth s ≤ marchLength leap (monthOfDay s) := by
  obtain ⟨m, hm⟩ : ∃ m, m = monthOfDay s := ⟨_, rfl⟩
  obtain ⟨hm0, hm1, -⟩ := monthOfDay_bounds h0 h1
  simp only [dayOfMonth, ← hm] at hm0 hm1 ⊢
  simp only [monthOfDay] at hm
  cases leap with
  | true => interval_cases m <;> simp [marchLength] <;> omega
  | false =>
    have hs : s ≠ 365 := fun hs => Bool.false_ne_true (hleap hs)
    interval_cases m <;> simp [marchLength] <;> omega

theorem monthLength_late {m : Int} (h0 : 0 ≤ m) (h1 : m < 10) (leap : Bool) (year : Int) :
    monthLength year (m + 3).toNat = marchLength leap m := by
  interval_cases m <;> rfl

theorem monthLength_early {m : Int} (h0 : 10 ≤ m) (h1 : m ≤ 11) (year : Int) :
    monthLength year (m - 9).toNat = marchLength (isLeap year) m := by
  interval_cases m <;> rfl

theorem valid_ofDayNumber (n : Int) : (ofDayNumber n).Valid := by
  obtain ⟨c, q, t, s, h⟩ := exists_at_of n
  have hle := dayOfMonth_le h.day.1 h.day.2 fun hs => h.isLeap hs ((n + 719468) / 146097)
  obtain ⟨hm0, hm1, hd⟩ := monthOfDay_bounds h.day.1 h.day.2
  rw [h.yearOfEra_eq] at hle
  simp only [ofDayNumber_eq, h.dayOfYear_eq, h.yearOfEra_eq]
  split
  · rename_i hlate
    simp only [Valid, monthLength_late hm0 hlate
      (isLeap (100 * c + 4 * q + t + (n + 719468) / 146097 * 400 + 1))]
    omega
  · simp only [Valid, monthLength_early (by omega) hm1]
    omega

end Gatehouse.Date
