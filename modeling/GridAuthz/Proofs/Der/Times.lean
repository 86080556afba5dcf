import GridAuthz.Der.Time
import GridAuthz.Proofs.Der.Primitives

/-!
# Times read back

A date and time reads back from both forms in which it is written: from a GeneralizedTime
(`generalizedTime?_generalizedTime`) and, up to the year 2049, from a UTCTime, whose two digits of
the year then stand for that year only (`Time.ofElement?_toElement`).
-/

namespace GridAuthz.Der

/-! ### Digits -/

theorem digit_eq {d : Nat} (h : d < 10) :
    (48 ≤ UInt8.ofNat (48 + d) && UInt8.ofNat (48 + d) ≤ 57) = true ∧
      (UInt8.ofNat (48 + d)).toNat - 48 = d := by
  have small : ∀ k : Fin 10, (48 ≤ UInt8.ofNat (48 + k) && UInt8.ofNat (48 + k) ≤ 57) = true ∧
      (UInt8.ofNat (48 + k)).toNat - 48 = k := by decide
  exact small ⟨d, h⟩

theorem digits?_twoDigits {n : Nat} (h : n < 100) : digits? (twoDigits n) = some n := by
  obtain ⟨hfirst, hfirst'⟩ := digit_eq (show n / 10 < 10 by omega)
  obtain ⟨hsecond, hsecond'⟩ := digit_eq (show n % 10 < 10 by omega)
  simp only [digits?, twoDigits, List.all_cons, List.all_nil, List.foldl_cons, List.foldl_nil,
    hfirst, hsecond, hfirst', hsecond', Bool.and_self, if_true, Option.some.injEq]
  omega

theorem digits?_append {m n : Nat} (hm : m < 100) (hn : n < 100) :
    digits? (twoDigits m ++ twoDigits n) = some (m * 100 + n) := by
  obtain ⟨h₁, h₁'⟩ := digit_eq (show m / 10 < 10 by omega)
  obtain ⟨h₂, h₂'⟩ := digit_eq (show m % 10 < 10 by omega)
  obtain ⟨h₃, h₃'⟩ := digit_eq (show n / 10 < 10 by omega)
  obtain ⟨h₄, h₄'⟩ := digit_eq (show n % 10 < 10 by omega)
  simp only [digits?, twoDigits, List.cons_append, List.nil_append, List.all_cons, List.all_nil,
    List.foldl_cons, List.foldl_nil, h₁, h₂, h₃, h₄, h₁', h₂', h₃', h₄', Bool.and_self, if_true,
    Option.some.injEq]
  omega

/-! ### Dates -/

/-- What is known of the parts of a date and time. -/
theorem bounds_of_dateTime (t : DateTime) : 1970 ≤ t.year ∧ t.year ≤ 9999 ∧ t.month < 100 ∧
    t.day < 100 ∧ t.hour < 100 ∧ t.minute < 100 ∧ t.second < 100 := by
  have hdays : DateTime.daysInMonth t.year t.month ≤ 31 := by
    unfold DateTime.daysInMonth
    split
    · split <;> omega
    all_goals omega
  have hvalid := t.valid
  simp only [DateTime.isValid, Bool.and_eq_true, decide_eq_true_eq] at hvalid
  omega

theorem ofParts?_parts (t : DateTime) :
    DateTime.ofParts? t.year t.month t.day t.hour t.minute t.second = some t := by
  rw [DateTime.ofParts?, dif_pos t.valid]

theorem ofMonthToSecond?_monthToSecond (t : DateTime) :
    ofMonthToSecond? t.year (monthToSecond t) = some t := by
  obtain ⟨-, -, hmonth, hday, hhour, hminute, hsecond⟩ := bounds_of_dateTime t
  have hparts := ofParts?_parts t
  have digits : ∀ {n}, n < 100 →
      digits? [UInt8.ofNat (48 + n / 10), UInt8.ofNat (48 + n % 10)] = some n := digits?_twoDigits
  simp only [monthToSecond, twoDigits, List.cons_append, List.nil_append, ofMonthToSecond?,
    digits hmonth, digits hday, digits hhour, digits hminute, digits hsecond,
    Option.bind_eq_bind, Option.bind_some, hparts]

@[simp] theorem generalizedTime?_generalizedTime (t : DateTime) :
    generalizedTime? (generalizedTime t) = some t := by
  obtain ⟨-, hyear, -⟩ := bounds_of_dateTime t
  have hdigits : digits? (twoDigits (t.year / 100) ++ twoDigits (t.year % 100)) =
      some t.year := by
    rw [digits?_append (by omega) (by omega), Nat.div_add_mod']
  have hrest := ofMonthToSecond?_monthToSecond t
  simp only [twoDigits, List.cons_append, List.nil_append] at hdigits
  simp only [generalizedTime?, generalizedTime, Element.contentOf?, if_true, twoDigits,
    List.cons_append, List.nil_append, Option.bind_eq_bind, Option.bind_some, hdigits, hrest]

theorem Time.yearOfTwoDigits_mod {year : Nat} (h : 1970 ≤ year) (hlt : year < 2050) :
    yearOfTwoDigits (year % 100) = year := by
  rw [yearOfTwoDigits]
  split <;> omega

@[simp] theorem Time.ofElement?_toElement (t : Time) : ofElement? t.toElement = some t := by
  cases t with
  | utc t hlt =>
    obtain ⟨hyear, -⟩ := bounds_of_dateTime t
    have hdigits := digits?_twoDigits (show t.year % 100 < 100 by omega)
    have hrest := ofMonthToSecond?_monthToSecond t
    simp only [twoDigits] at hdigits
    simp only [ofElement?, toElement, if_true, twoDigits, List.cons_append, List.nil_append,
      Option.bind_eq_bind, Option.bind_some, hdigits, yearOfTwoDigits_mod hyear hlt, hrest,
      dif_pos hlt]
  | general t =>
    have hne : Tag.generalizedTime ≠ Tag.utcTime := by decide
    have htag : (generalizedTime t).tag ≠ Tag.utcTime := hne
    simp [ofElement?, toElement, htag]

end GridAuthz.Der
