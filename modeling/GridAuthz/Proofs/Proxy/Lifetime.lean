import GridAuthz.Proofs.Calendar
import GridAuthz.Proofs.Chain.Delegation
import GridAuthz.Proofs.Durations
import GridAuthz.Proofs.Proxy.Issuing

/-!
# How long an issued proxy is valid

The end of the lifetime is computed before it is compared with the end of the issuer. So the sum of
the clock and the lifetime must be representable even where the proxy ends with its issuer anyway:
if it is not, issuing is aborted (`issueAt_outcome`). Every other failure is reported, and a proxy
that is issued ends at the sum or with its issuer, whichever comes first. As the issuer ends before
the year 10000, that end can always be stated.
-/

namespace GridAuthz

theorem SerialNumber.exists_ofNat? (serial : UInt32) : ∃ s, ofNat? serial.toNat = some s := by
  have hlt := serial.toNat_lt
  obtain ⟨b, bs, hcontent, hinteger, -⟩ := Der.unsignedContent_eq_cons serial.toNat
  refine ⟨_, dif_pos ⟨hcontent ▸ hinteger, ?_⟩⟩
  have hdigits : Bytes.digitCount serial.toNat ≤ 4 := by
    by_contra hmany
    have hne : serial.toNat ≠ 0 := by
      intro hzero
      rw [hzero] at hmany
      exact hmany (by decide)
    have hpow := Bytes.pow_le_of_digitCount hne
    have hmono : 256 ^ 4 ≤ 256 ^ (Bytes.digitCount serial.toNat - 1) :=
      Nat.pow_le_pow_right (by decide) (by omega)
    omega
  have hlen := Bytes.length_ofNat serial.toNat
  rw [Der.unsignedContent]
  split
  · decide
  · rename_i first rest hfirst
    rw [hfirst] at hlen
    split
    · omega
    · rw [List.length_cons]
      omega

namespace ProxyRequest

variable {r : ProxyRequest} {issuer c : Credential} {leaf : Certificate} {now : Duration}
  {key : RsaPrivateKey} {serial : UInt32} {e : IssueError}

/-! ### Failures, step by step -/

theorem check_eq_ok_iff :
    r.check = .ok () ↔ minKeyBits ≤ r.keyBits ∧ r.lifetime ≠ .ofSeconds 0 := by
  rw [check]
  split_ifs with hbits hlifetime
  · simp [Nat.not_le.2 hbits]
  · simp [hlifetime]
  · simp [Nat.not_lt.1 hbits, hlifetime]

theorem check_eq_error_iff :
    r.check = .error e ↔ r.keyBits < minKeyBits ∧ e = .keySize r.keyBits ∨
      minKeyBits ≤ r.keyBits ∧ r.lifetime = .ofSeconds 0 ∧ e = .noLifetime := by
  rw [check]
  split_ifs with hbits hlifetime
  · simp [hbits, Nat.not_le.2 hbits, @eq_comm _ _ e]
  · simp [hbits, Nat.not_lt.1 hbits, hlifetime, @eq_comm _ _ e]
  · simp [hbits, hlifetime]

/-- The seconds of the sum of a moment and the lifetime do not fit in 64 bits. -/
def Overflows (r : ProxyRequest) (now : Duration) : Prop :=
  UInt64.size ≤ (now + r.lifetime).seconds

theorem fits_eq_false_iff : (now + r.lifetime).fits = false ↔ r.Overflows now := by
  rw [Duration.fits, Overflows, decide_eq_false_iff_not, Nat.not_lt]

theorem expiry_eq_ok_iff {last : Duration} :
    r.expiry leaf now = .ok last ↔
      ¬r.Overflows now ∧ last = min (now + r.lifetime) leaf.notAfter := by
  rw [expiry, ← fits_eq_false_iff, Bool.not_eq_false]
  split_ifs with hfits
  · simp [hfits, @eq_comm _ _ last]
  · simp [hfits]

theorem expiry_eq_error_iff :
    r.expiry leaf now = .error e ↔ r.Overflows now ∧ e = .overflow := by
  rw [expiry, ← fits_eq_false_iff]
  split_ifs with hfits
  · simp [hfits]
  · simp [hfits, @eq_comm _ _ e]

theorem validity_eq_ok_iff {v : Validity} :
    r.validity leaf now = .ok v ↔ ¬r.Overflows now ∧
      Der.Time.ofMoment? (now - backdating) = some v.notBefore ∧
      Der.Time.ofMoment? (min (now + r.lifetime) leaf.notAfter) = some v.notAfter := by
  rw [validity, bind_eq_ok_iff]
  simp only [expiry_eq_ok_iff]
  cases Der.Time.ofMoment? (now - backdating) <;>
    cases hlast : Der.Time.ofMoment? (min (now + r.lifetime) leaf.notAfter) <;>
    cases v <;> simp [hlast]

/-- A period of validity cannot be put together because of the sum or because of a time that
certificates cannot state. -/
theorem validity_eq_error (h : r.validity leaf now = .error e) :
    r.Overflows now ∧ e = .overflow ∨ e = .encoding := by
  rw [validity, bind_eq_error_iff] at h
  rcases h with h | ⟨last, -, h⟩
  · exact .inl (expiry_eq_error_iff.1 h)
  · split at h
    · cases h
    · cases h
      exact .inr rfl

theorem body_eq_error (h : r.body leaf now key serial = .error e) :
    r.Overflows now ∧ e = .overflow ∨ e = .encoding := by
  rw [body, bind_eq_error_iff] at h
  rcases h with h | ⟨validity, -, h⟩
  · exact validity_eq_error h
  · split at h
    · cases h
      exact .inr rfl
    · cases h

theorem sign_eq_error {signer : RsaPrivateKey} {b : CertificateBody} (h : sign signer b = .error e) :
    e = .encoding ∨ e = .signature := by
  rw [sign] at h
  split at h
  · cases h
    exact .inl rfl
  · split at h
    · cases h
      exact .inr rfl
    · cases h

/-- A request that passes its check is not met because of the sum, an encoding or the signature. -/
theorem issue_eq_error (h : r.issue issuer now key serial = .error e) :
    r.check = .error e ∨
      r.check = .ok () ∧ (r.Overflows now ∧ e = .overflow ∨ e = .encoding ∨ e = .signature) := by
  rw [issue, check_bind_eq_error_iff, bind_eq_error_iff] at h
  rcases h with h | ⟨hcheck, h | ⟨b, -, h⟩⟩
  · exact .inl h
  · rcases body_eq_error h with h | h
    · exact .inr ⟨hcheck, .inl h⟩
    · exact .inr ⟨hcheck, .inr (.inl h)⟩
  · rw [bind_eq_error_iff] at h
    rcases h with h | ⟨leaf, -, h⟩
    · exact .inr ⟨hcheck, .inr (sign_eq_error h)⟩
    · cases h

theorem issue_of_check_eq_error (h : r.check = .error e) :
    r.issue issuer now key serial = .error e := by
  rw [issue, h]
  rfl

/-- A sum that is too large aborts issuing whenever the request itself is in order. -/
theorem issue_of_overflows (hcheck : r.check = .ok ()) (h : r.Overflows now) :
    r.issue issuer now key serial = .error .overflow := by
  have hvalidity : r.validity issuer.leaf now = .error .overflow := by
    rw [validity, expiry_eq_error_iff.2 ⟨h, rfl⟩]
    rfl
  rw [issue, hcheck, body, hvalidity]
  rfl

/-! ### Success -/

/-- What the issuer signs can be put together up to the end of the year 9999. -/
theorem exists_body (issuer : Credential) (key : RsaPrivateKey) (serial : UInt32)
    (hsum : ¬r.Overflows now) (hnow : now - backdating ≤ .ofSeconds DateTime.lastSecond) :
    ∃ b, r.body issuer.leaf now key serial = .ok b := by
  obtain ⟨notBefore, hnotBefore⟩ := Der.Time.exists_ofMoment? hnow
  obtain ⟨notAfter, hnotAfter⟩ := Der.Time.exists_ofMoment?
    ((min_le_right (now + r.lifetime) issuer.leaf.notAfter).trans (DateTime.moment_le _))
  obtain ⟨serialNumber, hserial⟩ := SerialNumber.exists_ofNat? serial
  exact ⟨_, body_eq_ok_iff.2 ⟨⟨notBefore, notAfter⟩, serialNumber,
    validity_eq_ok_iff.2 ⟨hsum, hnotBefore, hnotAfter⟩, hserial, rfl⟩⟩

/-- Once there is something to sign, only its length and the signature stand in the way. -/
theorem exists_issue_iff {b : CertificateBody} (hcheck : r.check = .ok ())
    (hbody : r.body issuer.leaf now key serial = .ok b) :
    (∃ c, r.issue issuer now key serial = .ok c) ↔
      b.toElement.encode.length ≤ Der.maxLength ∧
        (issuer.privateKey.sign? .sha256 b.toElement.encode).isSome = true := by
  simp only [issue_eq_ok_iff, hbody, Except.ok.injEq, sign_eq_ok_iff, Option.isSome_iff_exists]
  constructor
  · rintro ⟨c, -, _, rfl, leaf, ⟨hlen, signature, hsignature, -⟩, -⟩
    exact ⟨hlen, signature, hsignature⟩
  · rintro ⟨hlen, signature, hsignature⟩
    exact ⟨_, hcheck, b, rfl, _, ⟨hlen, signature, hsignature, rfl⟩, rfl⟩

/-! ### The end of a proxy -/

/-- The earlier of two moments, of which one has no fraction of a second. -/
theorem seconds_min_ofSeconds (d : Duration) (n : Nat) :
    Duration.ofSeconds (min d (.ofSeconds n)).seconds =
      min (.ofSeconds d.seconds) (.ofSeconds n) := by
  have hwhole : (Duration.ofSeconds n).seconds = n :=
    Nat.mul_div_cancel_left n (by decide : 0 < Duration.second)
  rcases le_total d (.ofSeconds n) with hle | hle
  · have hseconds : d.seconds ≤ n := hwhole ▸ Nat.div_le_div_right hle
    have hle' : Duration.ofSeconds d.seconds ≤ .ofSeconds n :=
      Nat.mul_le_mul_left Duration.second hseconds
    rw [min_eq_left hle, min_eq_left hle']
  · have hseconds : n ≤ d.seconds := hwhole ▸ Nat.div_le_div_right hle
    have hle' : Duration.ofSeconds n ≤ .ofSeconds d.seconds :=
      Nat.mul_le_mul_left Duration.second hseconds
    rw [min_eq_right hle, min_eq_right hle', hwhole]

theorem notAfter_of_issue (h : r.issue issuer now key serial = .ok c) :
    c.leaf.notAfter =
      min (.ofSeconds (now + r.lifetime).seconds) issuer.leaf.notAfter := by
  obtain ⟨-, b, hbody, leaf, hleaf, rfl⟩ := issue_eq_ok_iff.1 h
  obtain ⟨validity, serialNumber, hvalidity, -, rfl⟩ := body_eq_ok_iff.1 hbody
  obtain ⟨-, signature, -, rfl⟩ := sign_eq_ok_iff.1 hleaf
  obtain ⟨-, -, hlast⟩ := validity_eq_ok_iff.1 hvalidity
  exact (Der.Time.moment_of_ofMoment? hlast).trans (seconds_min_ofSeconds _ _)

/-! ### Every outcome -/

theorem issueAt_of_nonneg {clock : Int} (h : 0 ≤ clock) :
    r.issueAt issuer clock key serial = r.issue issuer ⟨clock.toNat⟩ key serial := if_pos h

theorem issueAt_of_check_eq_error {clock : Int} (h : r.check = .error e) :
    r.issueAt issuer clock key serial = .error e := by
  rw [issueAt]
  split_ifs
  · exact issue_of_check_eq_error h
  · rw [h]
    rfl

/-- Why issuing at the moment of a clock fails. -/
theorem issueAt_eq_error {clock : Int} (h : r.issueAt issuer clock key serial = .error e) :
    r.check = .error e ∨ r.check = .ok () ∧
      (0 ≤ clock ∧ r.Overflows ⟨clock.toNat⟩ ∧ e = .overflow ∨
        e = .clock ∨ e = .encoding ∨ e = .signature) := by
  rw [issueAt] at h
  split_ifs at h with hclock
  · rcases issue_eq_error h with h | ⟨hcheck, h | h⟩
    · exact .inl h
    · exact .inr ⟨hcheck, .inl ⟨hclock, h⟩⟩
    · exact .inr ⟨hcheck, .inr (.inr h)⟩
  · rcases check_bind_eq_error_iff.1 h with h | ⟨hcheck, h⟩
    · exact .inl h
    · cases h
      exact .inr ⟨hcheck, .inr (.inl rfl)⟩

/-- Every failure but the two of the key and of the sum is one of generating the proxy. -/
theorem exists_message_eq (e : IssueError) : (∃ bits, e = .keySize bits) ∨ e = .overflow ∨
    ∃ reason, e.message = "Failed to generate the proxy certificate: " ++ reason := by
  cases e with
  | keySize bits => exact .inl ⟨bits, rfl⟩
  | overflow => exact .inr (.inl rfl)
  | noLifetime => exact .inr (.inr ⟨"the lifetime must be greater than zero", rfl⟩)
  | clock => exact .inr (.inr ⟨"second time provided was later than self", rfl⟩)
  | encoding => exact .inr (.inr ⟨"it cannot be encoded", rfl⟩)
  | signature => exact .inr (.inr ⟨SignatureError.message .mismatch, rfl⟩)

/-- What comes of a request, for every clock. A key that is too small is refused, and nothing else
is refused for its key. Issuing is aborted exactly when the request is in order and the clock, which
does not show a moment before 1970, and the lifetime have a sum whose seconds do not fit in 64 bits,
whatever the end of the issuer is. Any other failure is one of generating the proxy. A proxy that is
issued ends at the sum, without its fraction of a second, or with its issuer if that comes first.
Until five minutes after the year 9999, what is to be signed can be put together for every lifetime
whose sum fits, and a proxy is issued unless it is too long for an encoding or is not signed. -/
theorem issueAt_outcome (r : ProxyRequest) (issuer : Credential) (clock : Int)
    (key : RsaPrivateKey) (serial : UInt32) :
    (∀ bits, r.issueAt issuer clock key serial = .error (.keySize bits) ↔
      r.keyBits < 512 ∧ bits = r.keyBits) ∧
    (r.issueAt issuer clock key serial = .error .overflow ↔
      512 ≤ r.keyBits ∧ r.lifetime ≠ .ofSeconds 0 ∧ 0 ≤ clock ∧
        2 ^ 64 ≤ (⟨clock.toNat⟩ + r.lifetime : Duration).seconds) ∧
    (∀ e, r.issueAt issuer clock key serial = .error e →
      (∃ bits, e = .keySize bits) ∨ e = .overflow ∨
        ∃ reason, e.message = "Failed to generate the proxy certificate: " ++ reason) ∧
    (∀ c, r.issueAt issuer clock key serial = .ok c →
      c.leaf.notAfter =
        min (.ofSeconds (⟨clock.toNat⟩ + r.lifetime : Duration).seconds) issuer.leaf.notAfter) ∧
    (512 ≤ r.keyBits → r.lifetime ≠ .ofSeconds 0 → 0 ≤ clock →
      (⟨clock.toNat⟩ + r.lifetime : Duration).seconds < 2 ^ 64 →
      (⟨clock.toNat⟩ - backdating : Duration) ≤ .ofSeconds DateTime.lastSecond →
      ∃ b, r.body issuer.leaf ⟨clock.toNat⟩ key serial = .ok b ∧
        ((∃ c, r.issueAt issuer clock key serial = .ok c) ↔
          b.toElement.encode.length ≤ Der.maxLength ∧
            (issuer.privateKey.sign? .sha256 b.toElement.encode).isSome = true)) := by
  refine ⟨fun bits => ⟨fun h => ?_, ?_⟩, ⟨fun h => ?_, ?_⟩, fun e _ => exists_message_eq e,
    fun c h => ?_, fun hbits hlifetime hclock hsum hnow => ?_⟩
  · rcases issueAt_eq_error h with h | ⟨-, ⟨-, -, h⟩ | h | h | h⟩
    · rcases check_eq_error_iff.1 h with ⟨hbits, heq⟩ | ⟨-, -, heq⟩
      · exact ⟨hbits, IssueError.keySize.inj heq⟩
      · cases heq
    all_goals cases h
  · rintro ⟨hbits, rfl⟩
    exact issueAt_of_check_eq_error (check_eq_error_iff.2 (.inl ⟨hbits, rfl⟩))
  · rcases issueAt_eq_error h with h | ⟨hcheck, ⟨hclock, hoverflows, -⟩ | h | h | h⟩
    · rcases check_eq_error_iff.1 h with ⟨-, heq⟩ | ⟨-, -, heq⟩ <;> cases heq
    · obtain ⟨hbits, hlifetime⟩ := check_eq_ok_iff.1 hcheck
      exact ⟨hbits, hlifetime, hclock, hoverflows⟩
    all_goals cases h
  · rintro ⟨hbits, hlifetime, hclock, hoverflows⟩
    rw [issueAt_of_nonneg hclock]
    exact issue_of_overflows (check_eq_ok_iff.2 ⟨hbits, hlifetime⟩) hoverflows
  · rw [issueAt] at h
    split_ifs at h with hclock
    · exact notAfter_of_issue h
    · rw [check_bind_eq_ok_iff] at h
      cases h.2
  · obtain ⟨b, hbody⟩ := exists_body issuer key serial (Nat.not_le.2 hsum) hnow
    refine ⟨b, hbody, ?_⟩
    rw [issueAt_of_nonneg hclock]
    exact exists_issue_iff (check_eq_ok_iff.2 ⟨hbits, hlifetime⟩) hbody

/-- Two proxies of the sample. The first one ends when its lifetime does. For the longest lifetime
there is, the second one is aborted, although its issuer ends within a year. -/
theorem issueAt_outcome_sample :
    Sample.firstRequest.issueAt Sample.credential Sample.moment.nanoseconds .mersenne 1 =
        .ok Sample.first ∧
      Sample.first.leaf.notAfter = Sample.moment + .ofSeconds (12 * 60 * 60) ∧
      issueAt { lifetime := ⟨2 ^ 64 * Duration.second - 1⟩ } Sample.credential
        Sample.moment.nanoseconds .mersenne 1 = .error .overflow ∧
      ∃ b, body {} Sample.credential.leaf Sample.moment .mersenne 1 = .ok b := by
  have hfirst : Sample.firstRequest.issueAt Sample.credential Sample.moment.nanoseconds .mersenne 1 =
      .ok Sample.first := Sample.issue_first
  obtain ⟨-, -, -, hend, -⟩ := issueAt_outcome Sample.firstRequest Sample.credential
    Sample.moment.nanoseconds .mersenne 1
  obtain ⟨-, haborts, -⟩ := issueAt_outcome { lifetime := ⟨2 ^ 64 * Duration.second - 1⟩ }
    Sample.credential Sample.moment.nanoseconds .mersenne 1
  obtain ⟨-, -, -, -, hissues⟩ := issueAt_outcome {} Sample.credential
    Sample.moment.nanoseconds .mersenne 1
  refine ⟨hfirst, (hend _ hfirst).trans (by decide +kernel), haborts.2 (by decide +kernel), ?_⟩
  obtain ⟨b, hbody, -⟩ := hissues (by decide) (by decide) (by decide) (by decide +kernel)
    (by decide +kernel)
  exact ⟨b, hbody⟩

end ProxyRequest

end GridAuthz
