import Mathlib.Data.List.Induction
import GridAuthz.Membership.PolicyAuthority
import GridAuthz.Proofs.Text.Cutting

/-!
# How a policy authority is written

A text that is read as a policy authority is the organisation, `://`, the host, a colon and the port
in decimal, and every such text is read as that authority (`PolicyAuthority.ofText?_eq_some_iff`). The
organisation ends at the first `://`, so it has none in it; the host may have. Decimal digits write a
number if they are its digits, behind any number of zeros (`decimal?_eq_some_iff`), so a text of an
authority differs from the plain one at most by a plus sign and by zeros in front of the port
(`PolicyAuthority.ofText?_splits`).
-/

namespace GridAuthz.PolicyAuthority

/-- The text writes the authority as `vo://host:port`. -/
structure IsWritten (a : PolicyAuthority) (text : String) : Prop where
  /-- There is an organisation. -/
  vo_ne : a.vo ≠ ""
  /-- There is a host. -/
  host_ne : a.host ≠ ""
  /-- The organisation goes on up to the first `://`. -/
  not_infix : ¬separator <:+: a.vo.toList
  /-- The parts follow each other; the last is the port in decimal. -/
  text_eq : ∃ port, port? port = some a.port ∧
    text.toList = a.vo.toList ++ (separator ++ (a.host.toList ++ ':' :: port))

theorem isDigit_of_decimal? {digits : List Char} {n : Nat} (h : decimal? digits = some n) :
    ∀ c ∈ digits, c.isDigit = true := by
  rw [decimal?, Option.ite_none_right_eq_some, Bool.and_eq_true, List.all_eq_true] at h
  exact h.1.2

/-- A port has no colon in it. -/
theorem colon_notMem_of_port? {port : List Char} {n : UInt16} (h : port? port = some n) :
    ':' ∉ port := by
  have hdigits : ∀ digits m, decimal? digits = some m → ':' ∉ digits := by
    intro digits m hdecimal hmem
    exact absurd (isDigit_of_decimal? hdecimal _ hmem) (by decide)
  obtain ⟨m, hm, -⟩ := Option.bind_eq_some_iff.1 h
  split at hm
  case h_1 digits => simp [hdigits _ _ hm]
  case h_2 => exact hdigits _ _ hm

theorem isUnbordered_separator : Text.IsUnbordered separator := by decide

theorem ofText?_eq_some_iff {text : String} {a : PolicyAuthority} :
    ofText? text = some a ↔ a.IsWritten text := by
  have hne : separator ≠ [] := by decide
  simp only [ofText?, ofChars?, Option.bind_eq_bind, Option.bind_eq_some_iff, Prod.exists,
    Text.cutAtText?_eq_some_iff hne isUnbordered_separator, Text.cutAtLast?_eq_some_iff]
  constructor
  · rintro ⟨vo, address, ⟨htext, hinfix⟩, host, port, ⟨rfl, -⟩, h⟩
    rw [Option.ite_none_left_eq_some] at h
    obtain ⟨hnonempty, h⟩ := h
    obtain ⟨n, hport, h⟩ := Option.bind_eq_some_iff.1 h
    cases h
    simp only [List.isEmpty_iff, Bool.or_eq_true, not_or] at hnonempty
    exact ⟨by simpa using hnonempty.1, by simpa using hnonempty.2, by simpa using hinfix, port,
      hport, by simpa using htext⟩
  · rintro ⟨hvo, hhost, hinfix, port, hport, htext⟩
    refine ⟨_, _, ⟨htext, hinfix⟩, _, port, ⟨rfl, colon_notMem_of_port? hport⟩, ?_⟩
    simp [hvo, hhost, hport]

/-! ### Ports -/

theorem decimal?_eq_some_iff_ofDigitChars {digits : List Char} {n : ℕ} : decimal? digits = some n ↔
    (digits ≠ [] ∧ ∀ c ∈ digits, c.isDigit = true) ∧ Nat.ofDigitChars 10 digits 0 = n := by
  have hstep : (fun n c => 10 * n + (c.toNat - '0'.toNat)) =
      fun (n : ℕ) (c : Char) => n * 10 + (c.toNat - 48) :=
    funext₂ fun n c => congrArg (· + (c.toNat - 48)) (Nat.mul_comm 10 n)
  rw [decimal?, Nat.ofDigitChars, hstep, Option.ite_none_right_eq_some, Option.some.injEq]
  simp

theorem digitChar_of_isDigit {c : Char} (h : c.isDigit = true) :
    c.toNat - 48 < 10 ∧ Nat.digitChar (c.toNat - 48) = c := by
  have hbounds : 48 ≤ c.toNat ∧ c.toNat ≤ 57 := Char.isDigit_iff_toNat.1 h
  refine ⟨by omega, Char.toNat_inj.1 ?_⟩
  rw [Nat.toNat_digitChar_of_lt_ten (by omega)]
  omega

/-- Digits are those of the number that they write, behind zeros. -/
theorem exists_eq_replicate_append {digits : List Char} (hne : digits ≠ [])
    (h : ∀ c ∈ digits, c.isDigit = true) : ∃ zeros, digits =
      List.replicate zeros '0' ++ Nat.toDigits 10 (Nat.ofDigitChars 10 digits 0) := by
  induction digits using List.reverseRecOn with
  | nil => exact absurd rfl hne
  | append_singleton digits c ih =>
    obtain ⟨hlt, hc⟩ := digitChar_of_isDigit (h c (by simp))
    have hlast : Nat.toDigits 10 (c.toNat - 48) = [c] := by rw [Nat.toDigits_of_lt_base hlt, hc]
    have hvalue : Nat.ofDigitChars 10 (digits ++ [c]) 0 =
        10 * Nat.ofDigitChars 10 digits 0 + (c.toNat - 48) := Nat.ofDigitChars_append 0
    rw [hvalue]
    by_cases hnil : digits = []
    · subst hnil
      exact ⟨0, by simpa using hlast.symm⟩
    · obtain ⟨zeros, hzeros⟩ := ih hnil fun d hd => h d (List.mem_append_left _ hd)
      by_cases hzero : Nat.ofDigitChars 10 digits 0 = 0
      · -- All digits so far are zeros, and the number is written by the last one.
        refine ⟨zeros + 1, ?_⟩
        rw [hzero, Nat.toDigits_zero, ← List.replicate_succ'] at hzeros
        rw [hzero, Nat.mul_zero, Nat.zero_add, hlast, ← hzeros]
      · refine ⟨zeros, ?_⟩
        rw [← Nat.toDigits_append_toDigits (by decide) (Nat.pos_of_ne_zero hzero) hlt, hlast,
          ← List.append_assoc, ← hzeros]

theorem decimal?_eq_some_iff {digits : List Char} {n : ℕ} : decimal? digits = some n ↔
    ∃ zeros, digits = List.replicate zeros '0' ++ Nat.toDigits 10 n := by
  rw [decimal?_eq_some_iff_ofDigitChars]
  constructor
  · rintro ⟨⟨hne, hdigits⟩, rfl⟩
    exact exists_eq_replicate_append hne hdigits
  · rintro ⟨zeros, rfl⟩
    refine ⟨⟨by simp [Nat.toDigits_ne_nil], fun c hc => ?_⟩, ?_⟩
    · rcases List.mem_append.1 hc with hzero | hdigit
      · rw [List.eq_of_mem_replicate hzero]
        rfl
      · exact Nat.isDigit_of_mem_toDigits (by decide) (by decide) hdigit
    · rw [Nat.ofDigitChars_append, Nat.ofDigitChars_replicate_zero, Nat.mul_zero,
        Nat.ofDigitChars_ten_toDigits]

theorem port?_eq_some_iff {text : List Char} {port : UInt16} : port? text = some port ↔
    ∃ plus zeros, (plus = [] ∨ plus = ['+']) ∧
      text = plus ++ (List.replicate zeros '0' ++ Nat.toDigits 10 port.toNat) := by
  have hsize : ∀ n : ℕ, (if n < UInt16.size then some (UInt16.ofNat n) else none) = some port ↔
      n = port.toNat := by
    intro n
    rw [Option.ite_none_right_eq_some, Option.some.injEq]
    constructor
    · rintro ⟨hn, rfl⟩
      exact (UInt16.toNat_ofNat_of_lt hn).symm
    · rintro rfl
      exact ⟨port.toNat_lt_size, UInt16.ofNat_toNat⟩
  have hdigits : port? text = some port ↔ decimal? text = some port.toNat ∨
      ∃ digits, text = '+' :: digits ∧ decimal? digits = some port.toNat := by
    simp only [port?, Option.bind_eq_some_iff, hsize, exists_eq_right]
    split
    case h_1 digits =>
      have hplus : decimal? ('+' :: digits) ≠ some port.toNat := fun h =>
        absurd (isDigit_of_decimal? h '+' List.mem_cons_self) (by decide)
      simp [hplus]
    case h_2 hplus =>
      have hnone : ¬∃ digits, text = '+' :: digits ∧ decimal? digits = some port.toNat :=
        fun ⟨digits, htext, _⟩ => hplus digits htext
      rw [or_iff_left hnone]
  rw [hdigits]
  simp only [decimal?_eq_some_iff]
  constructor
  · rintro (⟨zeros, rfl⟩ | ⟨_, rfl, zeros, rfl⟩)
    · exact ⟨[], zeros, .inl rfl, rfl⟩
    · exact ⟨['+'], zeros, .inr rfl, rfl⟩
  · rintro ⟨_, zeros, rfl | rfl, rfl⟩
    · exact .inl ⟨zeros, rfl⟩
    · exact .inr ⟨_, rfl, zeros, rfl⟩

/-! ### Splitting -/

theorem isWritten_iff {text : String} {a : PolicyAuthority} : a.IsWritten text ↔
    a.vo ≠ "" ∧ a.host ≠ "" ∧ ¬separator <:+: a.vo.toList ∧
      ∃ plus zeros, (plus = "" ∨ plus = "+") ∧ text = a.vo ++ "://" ++ a.host ++ ":" ++ plus ++
        String.ofList (List.replicate zeros '0') ++ toString a.port.toNat := by
  have hseparator : separator = [':', '/', '/'] := rfl
  constructor
  · rintro ⟨hvo, hhost, hinfix, port, hport, htext⟩
    obtain ⟨plus, zeros, hplus, rfl⟩ := port?_eq_some_iff.1 hport
    refine ⟨hvo, hhost, hinfix, String.ofList plus, zeros, ?_, String.toList_inj.1 ?_⟩
    · exact hplus.imp (congrArg String.ofList) (congrArg String.ofList)
    · simp [htext, hseparator]
  · rintro ⟨hvo, hhost, hinfix, plus, zeros, hplus, rfl⟩
    refine ⟨hvo, hhost, hinfix, _, port?_eq_some_iff.2 ⟨plus.toList, zeros, ?_, rfl⟩, ?_⟩
    · exact hplus.imp (congrArg String.toList) (congrArg String.toList)
    · simp [hseparator]

/-- A policy authority is split in one way only. An organisation without `://` in it, any host and
any port are read from `vo://host:port`. What is read from a text at all is written in it like this,
up to a plus sign and zeros in front of the port. -/
theorem ofText?_splits :
    (∀ a : PolicyAuthority, a.vo ≠ "" → a.host ≠ "" → ¬separator <:+: a.vo.toList →
      ofText? a.toText = some a) ∧
    ∀ text a, ofText? text = some a ↔
      a.vo ≠ "" ∧ a.host ≠ "" ∧ ¬separator <:+: a.vo.toList ∧
        ∃ plus zeros, (plus = "" ∨ plus = "+") ∧ text = a.vo ++ "://" ++ a.host ++ ":" ++ plus ++
          String.ofList (List.replicate zeros '0') ++ toString a.port.toNat := by
  refine ⟨fun a hvo hhost hinfix => ?_, fun text a => ofText?_eq_some_iff.trans isWritten_iff⟩
  rw [ofText?_eq_some_iff, isWritten_iff]
  exact ⟨hvo, hhost, hinfix, "", 0, .inl rfl, by simp [toText]⟩

/-- The organisation ends with a colon and a slash, and the host has both. -/
theorem ofText?_splits_sample :
    ofText? "grid:/://http://voms:8443/x:65535" = some ⟨"grid:/", "http://voms:8443/x", 65535⟩ ∧
      ofText? "grid://voms:+00080" = some ⟨"grid", "voms", 80⟩ ∧
      ofText? "grid://voms:65536" = none := by
  obtain ⟨hwritten, hiff⟩ := ofText?_splits
  refine ⟨hwritten ⟨"grid:/", "http://voms:8443/x", 65535⟩ (by decide) (by decide) (by decide),
    (hiff _ ⟨"grid", "voms", 80⟩).2 ⟨by decide, by decide, by decide, "+", 3, .inr rfl, by decide⟩,
    by decide⟩

end GridAuthz.PolicyAuthority
