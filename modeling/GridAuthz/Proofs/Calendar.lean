import Mathlib.Order.Monotone.Basic
import Mathlib.Tactic.SplitIfs
import GridAuthz.Der.Time

/-!
# The date of a moment

The search for the year and the month of a day passes over whole years and whole months, and keeps
the day it counts to (`days_yearOfDay`, `days_monthOfDay`). So the date and time of a moment is that
moment again, without its fraction of a second. Up to the end of the year 9999 the search ends at a
day that exists, so every moment up to then has a date and time, and no other has
(`exists_ofMoment?_iff`).
-/

namespace GridAuthz

namespace DateTime

/-! ### Days -/

/-- The search never goes back before 1970, and the days in front of the year found and the day in
that year make the day sought. -/
theorem days_yearOfDay (fuel n day : Nat) :
    1970 ≤ (yearOfDay fuel (1970 + n) day).1 ∧
      daysBeforeYear ((yearOfDay fuel (1970 + n) day).1 - 1970) +
        (yearOfDay fuel (1970 + n) day).2 = daysBeforeYear n + day := by
  induction fuel generalizing n day with
  | zero =>
    rw [yearOfDay, Nat.add_sub_cancel_left]
    exact ⟨Nat.le_add_right 1970 n, rfl⟩
  | succ fuel ih =>
    rw [yearOfDay]
    split_ifs with hday
    · rw [Nat.add_sub_cancel_left]
      exact ⟨Nat.le_add_right 1970 n, rfl⟩
    · obtain ⟨hle, hdays⟩ := ih (n + 1) (day - daysInYear (1970 + n))
      rw [← Nat.add_assoc] at hle hdays
      refine ⟨hle, hdays.trans ?_⟩
      rw [daysBeforeYear]
      omega

theorem days_monthOfDay (year fuel n day : Nat) :
    1 ≤ (monthOfDay year fuel (n + 1) day).1 ∧
      daysBeforeMonth year ((monthOfDay year fuel (n + 1) day).1 - 1) +
        (monthOfDay year fuel (n + 1) day).2 = daysBeforeMonth year n + day := by
  induction fuel generalizing n day with
  | zero => exact ⟨Nat.le_add_left 1 n, rfl⟩
  | succ fuel ih =>
    rw [monthOfDay]
    split_ifs with hday
    · exact ⟨Nat.le_add_left 1 n, rfl⟩
    · obtain ⟨hle, hdays⟩ := ih (n + 1) (day - daysInMonth year (n + 1))
      refine ⟨hle, hdays.trans ?_⟩
      rw [daysBeforeMonth]
      omega

/-- Given enough years to pass over, the search ends within a year. -/
theorem yearOfDay_lt (fuel n day : Nat)
    (h : daysBeforeYear n + day < daysBeforeYear (n + fuel)) :
    (yearOfDay fuel (1970 + n) day).1 < 1970 + n + fuel ∧
      (yearOfDay fuel (1970 + n) day).2 < daysInYear (yearOfDay fuel (1970 + n) day).1 := by
  induction fuel generalizing n day with
  | zero =>
    rw [Nat.add_zero] at h
    omega
  | succ fuel ih =>
    rw [yearOfDay]
    split_ifs with hday
    · exact ⟨Nat.lt_add_of_pos_right fuel.succ_pos, hday⟩
    · have hnext : n + 1 + fuel = n + (fuel + 1) := by omega
      have hdays : daysBeforeYear (n + 1) + (day - daysInYear (1970 + n)) =
          daysBeforeYear n + day := by
        rw [daysBeforeYear]
        omega
      have hlt := ih (n + 1) (day - daysInYear (1970 + n))
        (by rw [hdays, hnext]; exact h)
      rw [← Nat.add_assoc] at hlt
      exact ⟨by omega, hlt.2⟩

/-- Given enough months to pass over, the search ends within a month. -/
theorem monthOfDay_lt (year fuel n day : Nat)
    (h : daysBeforeMonth year n + day < daysBeforeMonth year (n + fuel + 1)) :
    (monthOfDay year fuel (n + 1) day).1 ≤ n + fuel + 1 ∧
      (monthOfDay year fuel (n + 1) day).2 <
        daysInMonth year (monthOfDay year fuel (n + 1) day).1 := by
  induction fuel generalizing n day with
  | zero =>
    rw [Nat.add_zero, daysBeforeMonth] at h
    exact ⟨Nat.le_refl _, Nat.lt_of_add_lt_add_left h⟩
  | succ fuel ih =>
    rw [monthOfDay]
    split_ifs with hday
    · exact ⟨by omega, hday⟩
    · have hnext : n + 1 + fuel + 1 = n + (fuel + 1) + 1 := by omega
      have hdays : daysBeforeMonth year (n + 1) + (day - daysInMonth year (n + 1)) =
          daysBeforeMonth year n + day := by
        rw [daysBeforeMonth]
        omega
      rw [← hnext]
      exact ih (n + 1) (day - daysInMonth year (n + 1)) (by rw [hdays, hnext]; exact h)

theorem daysBeforeMonth_twelve (year : Nat) : daysBeforeMonth year 12 = daysInYear year := by
  simp only [daysBeforeMonth, daysInMonth, daysInYear]
  split_ifs <;> rfl

theorem daysBeforeMonth_mono (year : Nat) : Monotone (daysBeforeMonth year) :=
  monotone_nat_of_le_succ fun n => Nat.le_add_right (daysBeforeMonth year n) _

theorem daysBeforeYear_mono : Monotone daysBeforeYear :=
  monotone_nat_of_le_succ fun n => Nat.le_add_right (daysBeforeYear n) _

theorem daysBeforeYear_end : daysBeforeYear 8030 = 2932897 := by decide +kernel

/-! ### Moments -/

theorem parts_of_ofParts? {year month day hour minute second : Nat} {t : DateTime}
    (h : ofParts? year month day hour minute second = some t) :
    t.year = year ∧ t.month = month ∧ t.day = day ∧ t.hour = hour ∧ t.minute = minute ∧
      t.second = second := by
  rw [ofParts?] at h
  split_ifs at h
  cases h
  exact ⟨rfl, rfl, rfl, rfl, rfl, rfl⟩

theorem unixSeconds_of_ofUnixSeconds? {seconds : Nat} {t : DateTime}
    (h : ofUnixSeconds? seconds = some t) : t.unixSeconds = seconds := by
  rw [ofUnixSeconds?] at h
  obtain ⟨-, hyear⟩ := days_yearOfDay 8030 0 (seconds / 86400)
  rw [Nat.add_zero] at hyear
  generalize yearOfDay 8030 1970 (seconds / 86400) = found at h hyear
  obtain ⟨year, dayOfYear⟩ := found
  obtain ⟨-, hmonth⟩ := days_monthOfDay year 11 0 dayOfYear
  rw [Nat.zero_add] at hmonth
  dsimp only at h
  generalize monthOfDay year 11 1 dayOfYear = found at h hmonth
  obtain ⟨month, day⟩ := found
  obtain ⟨rfl, rfl, hday, hhour, hminute, hsecond⟩ := parts_of_ofParts? h
  dsimp only [daysBeforeYear, daysBeforeMonth] at hyear hmonth
  have hdays : daysBeforeYear (t.year - 1970) + daysBeforeMonth t.year (t.month - 1) + (t.day - 1) =
      seconds / 86400 := by omega
  rw [unixSeconds, hdays, hhour, hminute, hsecond]
  omega

theorem exists_ofUnixSeconds? {seconds : Nat} (h : seconds ≤ lastSecond) :
    ∃ t, ofUnixSeconds? seconds = some t := by
  rw [lastSecond] at h
  rw [ofUnixSeconds?]
  obtain ⟨hfirst, -⟩ := days_yearOfDay 8030 0 (seconds / 86400)
  obtain ⟨hlast, hyear⟩ := yearOfDay_lt 8030 0 (seconds / 86400) (by
    rw [Nat.zero_add, daysBeforeYear_end, daysBeforeYear]
    omega)
  rw [Nat.add_zero] at hfirst hlast hyear
  generalize yearOfDay 8030 1970 (seconds / 86400) = found at hfirst hlast hyear ⊢
  obtain ⟨year, dayOfYear⟩ := found
  obtain ⟨hone, -⟩ := days_monthOfDay year 11 0 dayOfYear
  obtain ⟨htwelve, hmonth⟩ := monthOfDay_lt year 11 0 dayOfYear (by
    rw [daysBeforeMonth_twelve, daysBeforeMonth, Nat.zero_add]
    exact hyear)
  rw [Nat.zero_add] at hone htwelve hmonth
  dsimp only
  generalize monthOfDay year 11 1 dayOfYear = found at hone htwelve hmonth ⊢
  obtain ⟨month, day⟩ := found
  dsimp only at hfirst hlast hone htwelve hmonth ⊢
  have hvalid : isValid year month (day + 1) (seconds / 3600 % 24) (seconds / 60 % 60)
      (seconds % 60) = true := by
    simp only [isValid, Bool.and_eq_true, decide_eq_true_eq]
    omega
  exact ⟨_, dif_pos hvalid⟩

/-- No date and time is later than the end of the year 9999. -/
theorem unixSeconds_le (t : DateTime) : t.unixSeconds ≤ lastSecond := by
  have hvalid := t.valid
  simp only [isValid, Bool.and_eq_true, decide_eq_true_eq] at hvalid
  have hmonth : daysBeforeMonth t.year (t.month - 1 + 1) ≤ daysInYear t.year := by
    rw [← daysBeforeMonth_twelve]
    exact daysBeforeMonth_mono t.year (by omega)
  have hyear : daysBeforeYear (t.year - 1970 + 1) ≤ daysBeforeYear 8030 :=
    daysBeforeYear_mono (by omega)
  have hthisMonth : t.month - 1 + 1 = t.month := by omega
  have hthisYear : 1970 + (t.year - 1970) = t.year := by omega
  rw [daysBeforeMonth, hthisMonth] at hmonth
  rw [daysBeforeYear_end, daysBeforeYear, hthisYear] at hyear
  rw [unixSeconds, lastSecond]
  omega

theorem moment_le (t : DateTime) : t.moment ≤ .ofSeconds lastSecond :=
  Nat.mul_le_mul_left Duration.second t.unixSeconds_le

/-- The date and time of a moment is that moment without its fraction of a second. -/
theorem moment_of_ofMoment? {moment : Duration} {t : DateTime} (h : ofMoment? moment = some t) :
    t.moment = .ofSeconds moment.seconds := by
  rw [ofMoment?] at h
  split_ifs at h
  rw [DateTime.moment, unixSeconds_of_ofUnixSeconds? h]

/-- The moments that have a date and time are those up to the end of the year 9999. -/
theorem exists_ofMoment?_iff {moment : Duration} :
    (∃ t, ofMoment? moment = some t) ↔ moment ≤ .ofSeconds lastSecond := by
  rw [ofMoment?]
  split_ifs with h
  · have hseconds : moment.seconds ≤ lastSecond := by
      rw [← Nat.mul_div_cancel_left lastSecond (by decide : 0 < Duration.second)]
      exact Nat.div_le_div_right h
    simp [exists_ofUnixSeconds? hseconds, h]
  · simp [h]

end DateTime

/-- The time that a certificate states for a moment is that moment without its fraction of a
second. -/
theorem Der.Time.moment_of_ofMoment? {moment : Duration} {t : Der.Time}
    (h : ofMoment? moment = some t) : t.moment = .ofSeconds moment.seconds := by
  obtain ⟨date, hdate, rfl⟩ := Option.map_eq_some_iff.1 h
  rw [← DateTime.moment_of_ofMoment? hdate, Der.Time.moment]
  split_ifs <;> rfl

theorem Der.Time.exists_ofMoment? {moment : Duration} (h : moment ≤ .ofSeconds DateTime.lastSecond) :
    ∃ t, Time.ofMoment? moment = some t := by
  obtain ⟨date, hdate⟩ := DateTime.exists_ofMoment?_iff.2 h
  exact ⟨_, Option.map_eq_some_iff.2 ⟨date, hdate, rfl⟩⟩

end GridAuthz
