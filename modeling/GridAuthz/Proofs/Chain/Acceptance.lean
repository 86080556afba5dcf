import Mathlib.Order.MinMax
import GridAuthz.Chain.Validation
import GridAuthz.Proofs.Chain.EndEntity
import GridAuthz.Proofs.Durations
import GridAuthz.Proofs.Steps

/-!
# Which chains are accepted

`validateChain` goes over a chain three times: for the validity of all certificates, for the
proxies before the end entity, and for the issuers. Each pass is described by what it asks of the
certificate at every place (`checkValidity_eq_ok_iff`, `checkProxies_eq_ok_iff`,
`checkIssuers_eq_ok_iff`). Together the three say which chains are accepted and with which verdict
(`validateChain_accepts_iff`).
-/

namespace GridAuthz

namespace Certificate

theorem checkValidity_eq_ok_iff {c : Certificate} {now : Duration} :
    c.checkValidity now = .ok () ↔ c.notBefore ≤ now ∧ now ≤ c.notAfter := by
  rw [checkValidity]
  split_ifs with hearly hlate
  · simp [not_le.2 hearly]
  · simp [not_le.2 hlate]
  · simp [not_lt.1 hearly, not_lt.1 hlate]

theorem isValidAt_iff {c : Certificate} {now : Duration} :
    c.isValidAt now = true ↔ c.notBefore ≤ now ∧ now ≤ c.notAfter := by
  rw [← checkValidity_eq_ok_iff, isValidAt]
  cases c.checkValidity now <;> simp [Except.isOk, Except.toBool]

/-- The certificate carries a signature of its body by the key of another certificate. -/
def IsSignedBy (c issuer : Certificate) : Prop :=
  ∃ key signature, issuer.publicKey? = some key ∧
    Signature.of? c.signatureAlgorithm c.signature = some signature ∧
    key.verifies c.signedBytes signature = true

end Certificate

namespace Chain

/-! ### Validity -/

theorem checkValidity_eq_ok_iff {now : Duration} {index : Nat} {chain : List Certificate} :
    checkValidity now index chain = .ok () ↔
      ∀ c ∈ chain, c.notBefore ≤ now ∧ now ≤ c.notAfter := by
  induction chain generalizing index with
  | nil => simp [checkValidity]
  | cons c rest ih =>
    rw [List.forall_mem_cons, ← Certificate.checkValidity_eq_ok_iff, ← @ih (index + 1),
      checkValidity]
    cases c.checkValidity now with
    | ok => simp
    | error error => cases error <;> simp

theorem le_foldl_min_iff {rest : List Certificate} {d first : Duration} :
    d ≤ rest.foldl (fun d c => min d c.notAfter) first ↔
      d ≤ first ∧ ∀ x ∈ rest, d ≤ x.notAfter := by
  induction rest generalizing first with
  | nil => simp
  | cons x rest ih => rw [List.foldl_cons, ih, le_min_iff, List.forall_mem_cons, and_assoc]

theorem le_earliestExpiry_iff {c : Certificate} {rest : List Certificate} {d : Duration} :
    d ≤ earliestExpiry c rest ↔ ∀ x ∈ c :: rest, d ≤ x.notAfter := by
  rw [List.forall_mem_cons, earliestExpiry, le_foldl_min_iff]

theorem earliestExpiry_mem (c : Certificate) (rest : List Certificate) :
    ∃ x ∈ c :: rest, earliestExpiry c rest = x.notAfter := by
  have fold : ∀ first : Certificate,
      ∃ x ∈ first :: rest, rest.foldl (fun d c => min d c.notAfter) first.notAfter = x.notAfter := by
    induction rest with
    | nil => simp
    | cons y rest ih =>
      intro first
      rw [List.foldl_cons]
      rcases min_choice first.notAfter y.notAfter with h | h
      · obtain ⟨x, hx, heq⟩ := ih first
        rw [h, heq]
        exact ⟨x, by grind, rfl⟩
      · obtain ⟨x, hx, heq⟩ := ih y
        rw [h, heq]
        exact ⟨x, by grind, rfl⟩
  exact fold c

/-! ### Proxies -/

/-- A proxy is allowed at place `index`. -/
def AllowsProxy (index : Nat) (info : ProxyInfo) (c issuer : Certificate) : Prop :=
  (∀ allowed, info.pathLength = some allowed → index ≤ allowed.toNat) ∧
    c.isAuthority = false ∧ issuer.isAuthority = false

theorem checkProxy_eq_ok_iff {index : Nat} {info : ProxyInfo} {c issuer : Certificate} :
    checkProxy index info c issuer = .ok () ↔ AllowsProxy index info c issuer := by
  rw [checkProxy, AllowsProxy]
  cases info.pathLength with
  | none => cases c.isAuthority <;> cases issuer.isAuthority <;> simp
  | some allowed =>
    by_cases h : allowed.toNat < index
    · simp [Option.filter, h, Nat.not_le.2 h]
    · cases c.isAuthority <;> cases issuer.isAuthority <;>
        simp [Option.filter, h, Nat.le_of_not_lt h]

theorem checkProxies_eq_ok_iff {index : Nat} {infos : List ProxyInfo} {chain : List Certificate} :
    checkProxies index infos chain = .ok () ↔
      ∀ i info c issuer, infos[i]? = some info → chain[i]? = some c →
        chain[i + 1]? = some issuer → AllowsProxy (index + i) info c issuer := by
  induction chain generalizing index infos with
  | nil => simp [checkProxies]
  | cons c rest ih =>
    cases infos with
    | nil => simp [checkProxies]
    | cons info infos =>
      cases rest with
      | nil => simp [checkProxies]
      | cons issuer rest =>
        have split : checkProxies index (info :: infos) (c :: issuer :: rest) = .ok () ↔
            checkProxy index info c issuer = .ok () ∧
              checkProxies (index + 1) infos (issuer :: rest) = .ok () := by
          simp [checkProxies, check_bind_eq_ok_iff]
        rw [split, checkProxy_eq_ok_iff, ih]
        constructor
        · rintro ⟨hfirst, hrest⟩ i info' c' issuer' hinfo hc hissuer
          cases i with
          | zero =>
            cases hinfo
            cases hc
            cases hissuer
            exact hfirst
          | succ i =>
            rw [show index + (i + 1) = index + 1 + i by omega]
            exact hrest i info' c' issuer' hinfo hc hissuer
        · intro h
          refine ⟨h 0 info c issuer rfl rfl rfl, fun i info' c' issuer' hinfo hc hissuer => ?_⟩
          rw [show index + 1 + i = index + (i + 1) by omega]
          exact h (i + 1) info' c' issuer' hinfo hc hissuer

/-! ### Issuers -/

theorem checkSignedBy_eq_ok_iff {index : Nat} {c issuer : Certificate} :
    checkSignedBy index c issuer = .ok () ↔ c.IsSignedBy issuer := by
  rw [checkSignedBy, Certificate.IsSignedBy]
  cases issuer.publicKey? with
  | none => simp
  | some key =>
    cases Signature.of? c.signatureAlgorithm c.signature with
    | none => simp
    | some signature => cases key.verifies c.signedBytes signature <;> simp

/-- The certificate is issued by a trust anchor that is valid. -/
def IsAnchored (anchors : List Certificate) (now : Duration) (c : Certificate) : Prop :=
  ∃ anchor ∈ anchors, (anchor.notBefore ≤ now ∧ now ≤ anchor.notAfter) ∧
    anchor.subject.agrees c.issuer = true ∧ c.IsSignedBy anchor

theorem checkAnchored_eq_ok_iff {anchors : List Certificate} {now : Duration} {index : Nat}
    {c : Certificate} :
    checkAnchored anchors now index c = .ok () ↔ IsAnchored anchors now c := by
  have signed : ∀ anchor, (checkSignedBy index c anchor).isOk = true ↔ c.IsSignedBy anchor := by
    intro anchor
    rw [← @checkSignedBy_eq_ok_iff index]
    cases checkSignedBy index c anchor <;> simp [Except.isOk, Except.toBool]
  have found : ((candidateAnchors anchors now c).any fun anchor =>
      (checkSignedBy index c anchor).isOk) = true ↔ IsAnchored anchors now c := by
    simp only [List.any_eq_true, candidateAnchors, List.mem_filter, signed, Bool.and_eq_true,
      Certificate.isValidAt_iff, IsAnchored]
    grind
  rw [checkAnchored, ← found]
  cases candidateAnchors anchors now c with
  | nil => simp
  | cons anchor rest => split_ifs <;> simp_all

/-- The certificate at place `index` is issued by the next one, which is an authority from place
`endEntity` on. -/
def IsIssuedBy (endEntity index : Nat) (c issuer : Certificate) : Prop :=
  c.issuer.agrees issuer.subject = true ∧ (endEntity ≤ index → issuer.isAuthority = true) ∧
    c.IsSignedBy issuer

theorem checkIssuedBy_eq_ok_iff {endEntity index : Nat} {c issuer : Certificate} :
    checkIssuedBy endEntity index c issuer = .ok () ↔ IsIssuedBy endEntity index c issuer := by
  rw [checkIssuedBy, IsIssuedBy, ← @checkSignedBy_eq_ok_iff index]
  cases c.issuer.agrees issuer.subject with
  | false => simp
  | true =>
    by_cases h : endEntity ≤ index
    · cases issuer.isAuthority <;> simp [h]
    · simp [h]

theorem checkIssuers_eq_ok_iff {anchors : List Certificate} {now : Duration}
    {endEntity index : Nat} {chain : List Certificate} :
    checkIssuers anchors now endEntity index chain = .ok () ↔
      (∀ i c issuer, chain[i]? = some c → chain[i + 1]? = some issuer →
        IsIssuedBy endEntity (index + i) c issuer) ∧
      ∀ c, chain.getLast? = some c → IsAnchored anchors now c := by
  induction chain generalizing index with
  | nil => simp [checkIssuers]
  | cons c rest ih =>
    cases rest with
    | nil => simp [checkIssuers, checkAnchored_eq_ok_iff]
    | cons issuer rest =>
      have split : checkIssuers anchors now endEntity index (c :: issuer :: rest) = .ok () ↔
          checkIssuedBy endEntity index c issuer = .ok () ∧
            checkIssuers anchors now endEntity (index + 1) (issuer :: rest) = .ok () := by
        simp [checkIssuers, check_bind_eq_ok_iff]
      rw [split, checkIssuedBy_eq_ok_iff, ih, List.getLast?_cons_cons, ← and_assoc]
      refine and_congr_left fun _ => ⟨?_, fun h => ⟨h 0 c issuer rfl rfl, ?_⟩⟩
      · rintro ⟨hfirst, hrest⟩ i c' issuer' hc hissuer
        cases i with
        | zero =>
          cases hc
          cases hissuer
          exact hfirst
        | succ i =>
          rw [show index + (i + 1) = index + 1 + i by omega]
          exact hrest i c' issuer' hc hissuer
      · intro i c' issuer' hc hissuer
        rw [show index + 1 + i = index + (i + 1) by omega]
        exact h (i + 1) c' issuer' hc hissuer

/-! ### The end entity -/

theorem checkEndEntity_eq_ok_iff {endEntity : Nat} {chain : List Certificate} :
    checkEndEntity endEntity chain = .ok () ↔ ∀ c, chain[endEntity]? = some c →
      ∀ error, c.proxyInfo chain[endEntity + 1]? ≠ .error error := by
  rw [checkEndEntity, ← List.head?_drop (i := endEntity), ← List.head?_drop (i := endEntity + 1),
    ← List.tail_drop]
  cases chain.drop endEntity with
  | nil => simp
  | cons c rest =>
    simp only [List.head?_cons, Option.some.injEq, forall_eq', List.tail_cons]
    cases h : c.proxyInfo rest.head? with
    | ok => simp
    | error error => simp

/-! ### Accepted chains -/

/-- What is asked of a chain whose end entity is the certificate at place `endEntity`. -/
structure IsAcceptable (anchors chain : List Certificate) (now : Duration) (endEntity : Nat) :
    Prop where
  /-- The chain is long enough to have an end entity; so it is not empty. -/
  endEntity_lt : endEntity < chain.length
  /-- All certificates are valid. -/
  valid : ∀ c ∈ chain, c.notBefore ≤ now ∧ now ≤ c.notAfter
  /-- Each certificate before the end entity is a proxy of the next one and allowed there. -/
  proxy : ∀ i < endEntity, ∀ c issuer, chain[i]? = some c → chain[i + 1]? = some issuer →
    ∃ info, c.proxyInfo (some issuer) = .ok (some info) ∧ AllowsProxy i info c issuer
  /-- The end entity neither is a proxy of the next certificate nor claims to be one. -/
  noProxy : ∀ c, chain[endEntity]? = some c → c.proxyInfo chain[endEntity + 1]? = .ok none
  /-- Each certificate is issued by the next one, an authority from the end entity on. -/
  issued : ∀ i c issuer, chain[i]? = some c → chain[i + 1]? = some issuer →
    IsIssuedBy endEntity i c issuer
  /-- The last certificate is issued by a trust anchor. -/
  anchored : ∀ c, chain.getLast? = some c → IsAnchored anchors now c

/-- The verdict says what there is to say about a chain. -/
structure Describes (v : ValidatedChain) (chain : List Certificate) : Prop where
  /-- The kind is that of the leaf. -/
  kind : ∀ kind, v.proxyKind = some kind ↔ ∃ info, IsProxyAt chain 0 info ∧ info.kind = kind
  /-- There is none if the leaf is the end entity. -/
  kind_none : v.proxyKind = none ↔ v.endEntity = 0
  /-- Rights are limited if those of some proxy before the end entity are. -/
  limited : v.limited = true ↔
    ∃ i < v.endEntity, ∃ info, IsProxyAt chain i info ∧ info.limited = true
  /-- No certificate expires before the end. -/
  notAfter_le : ∀ c ∈ chain, v.notAfter ≤ c.notAfter
  /-- Some certificate expires at the end. -/
  notAfter_mem : ∃ c ∈ chain, v.notAfter = c.notAfter

theorem IsAcceptable.isProxyAt {anchors chain : List Certificate} {now : Duration} {e : Nat}
    (h : IsAcceptable anchors chain now e) {i : Nat} (hi : i < e) :
    ∃ info, IsProxyAt chain i info := by
  have hlt := h.endEntity_lt
  have hc : chain[i]? = some chain[i] := List.getElem?_eq_getElem (by omega)
  have hissuer : chain[i + 1]? = some chain[i + 1] := List.getElem?_eq_getElem (by omega)
  obtain ⟨info, hinfo, -⟩ := h.proxy i hi _ _ hc hissuer
  exact ⟨info, chain[i], hc, hissuer ▸ hinfo⟩

theorem IsAcceptable.endEntityIndex?_eq {anchors chain : List Certificate} {now : Duration}
    {e : Nat} (h : IsAcceptable anchors chain now e) : endEntityIndex? chain = some e := by
  refine (endEntityIndex?_eq_some_iff chain e).2 ⟨h.endEntity_lt, fun i hi => h.isProxyAt hi, ?_⟩
  rintro info ⟨c, hc, hinfo⟩
  rw [h.noProxy c hc] at hinfo
  simp at hinfo

/-- A chain is acceptable if it passes all checks. -/
theorem isAcceptable_iff {anchors chain : List Certificate} {now : Duration} {e : Nat} :
    IsAcceptable anchors chain now e ↔ endEntityIndex? chain = some e ∧
      checkValidity now 0 chain = .ok () ∧
      checkProxies 0 (leadingProxies chain) chain = .ok () ∧
      checkEndEntity e chain = .ok () ∧
      checkIssuers anchors now e 0 chain = .ok () := by
  rw [checkValidity_eq_ok_iff, checkProxies_eq_ok_iff, checkEndEntity_eq_ok_iff,
    checkIssuers_eq_ok_iff]
  simp only [Nat.zero_add]
  constructor
  · intro h
    refine ⟨h.endEntityIndex?_eq, h.valid, ?_, fun c hc error => by simp [h.noProxy c hc],
      h.issued, h.anchored⟩
    intro i info c issuer hinfo hc hissuer
    have hi : i < e :=
      length_leadingProxies_eq h.endEntityIndex?_eq ▸ (List.getElem?_eq_some_iff.1 hinfo).1
    obtain ⟨info', hinfo', hallows⟩ := h.proxy i hi c issuer hc hissuer
    have hproxy : IsProxyAt chain i info' := ⟨c, hc, hissuer ▸ hinfo'⟩
    rwa [((getElem?_leadingProxies chain i info).1 hinfo).1.unique hproxy]
  · rintro ⟨hend, hvalid, hproxies, hclaim, hissued, hanchored⟩
    obtain ⟨hlt, hbefore, hnot⟩ := (endEntityIndex?_eq_some_iff chain e).1 hend
    refine ⟨hlt, hvalid, ?_, ?_, hissued, hanchored⟩
    · intro i hi c issuer hc hissuer
      obtain ⟨info, hproxy⟩ := hbefore i hi
      have hinfo := (getElem?_leadingProxies chain i info).2
        ⟨hproxy, fun j hj => hbefore j (by omega)⟩
      obtain ⟨c', hc', hsays⟩ := hproxy
      cases hc.symm.trans hc'
      exact ⟨info, hissuer ▸ hsays, hproxies i info c issuer hinfo hc hissuer⟩
    · intro c hc
      cases hsays : c.proxyInfo chain[e + 1]? with
      | error error => exact absurd hsays (hclaim c hc error)
      | ok said =>
        cases said with
        | none => rfl
        | some info => exact absurd ⟨c, hc, hsays⟩ (hnot info)

/-! ### Verdicts -/

/-- The verdict on a chain whose end entity is known. -/
def verdict (leaf : Certificate) (rest : List Certificate) (endEntity : Nat) : ValidatedChain where
  endEntity
  proxyKind := (leadingProxies (leaf :: rest)).head?.map (·.kind)
  limited := (leadingProxies (leaf :: rest)).any (·.limited)
  notAfter := earliestExpiry leaf rest

theorem validateChain_cons_eq_ok_iff {anchors rest : List Certificate} {leaf : Certificate}
    {now : Duration} {v : ValidatedChain} :
    validateChain anchors (leaf :: rest) now = .ok v ↔
      IsAcceptable anchors (leaf :: rest) now v.endEntity ∧ v = verdict leaf rest v.endEntity := by
  rw [isAcceptable_iff, validateChain, check_bind_eq_ok_iff]
  cases hend : endEntityIndex? (leaf :: rest) with
  | none => simp
  | some e =>
    simp only [check_bind_eq_ok_iff, pure_eq_ok_iff, Option.some.injEq]
    constructor
    · rintro ⟨hvalid, hproxies, hclaim, hissuers, rfl⟩
      exact ⟨⟨rfl, hvalid, hproxies, hclaim, hissuers⟩, rfl⟩
    · rintro ⟨⟨rfl, hvalid, hproxies, hclaim, hissuers⟩, hv⟩
      exact ⟨hvalid, hproxies, hclaim, hissuers, hv.symm⟩

theorem describes_verdict {leaf : Certificate} {rest : List Certificate} {e : Nat}
    (hend : endEntityIndex? (leaf :: rest) = some e) :
    Describes (verdict leaf rest e) (leaf :: rest) := by
  have hcount := length_leadingProxies_eq hend
  have hbefore := ((endEntityIndex?_eq_some_iff _ e).1 hend).2.1
  refine ⟨fun kind => ?_, ?_, ?_, le_earliestExpiry_iff.1 le_rfl, earliestExpiry_mem leaf rest⟩
  · simp [verdict, Option.map_eq_some_iff, List.head?_eq_getElem?, getElem?_leadingProxies]
  · simp [verdict, ← hcount]
  · simp only [verdict, List.any_eq_true, List.mem_iff_getElem?, getElem?_leadingProxies]
    constructor
    · rintro ⟨info, ⟨i, hproxy, hproxies⟩, hlimited⟩
      have hi : i < e := hcount ▸ (List.getElem?_eq_some_iff.1
        ((getElem?_leadingProxies _ i info).2 ⟨hproxy, hproxies⟩)).1
      exact ⟨i, hi, info, hproxy, hlimited⟩
    · rintro ⟨i, hi, info, hproxy, hlimited⟩
      exact ⟨info, ⟨i, hproxy, fun j hj => hbefore j (by omega)⟩, hlimited⟩

/-- There is only one way to describe a chain. -/
theorem Describes.eq {v w : ValidatedChain} {chain : List Certificate} (hv : Describes v chain)
    (hw : Describes w chain) (he : v.endEntity = w.endEntity) : v = w := by
  have hkind : v.proxyKind = w.proxyKind :=
    Option.ext fun kind => (hv.kind kind).trans (hw.kind kind).symm
  have hlimited : v.limited = w.limited := by
    rw [Bool.eq_iff_iff, hv.limited, hw.limited, he]
  have hnotAfter : v.notAfter = w.notAfter := by
    obtain ⟨c, hc, hvc⟩ := hv.notAfter_mem
    obtain ⟨d, hd, hwd⟩ := hw.notAfter_mem
    exact le_antisymm (hwd ▸ hv.notAfter_le d hd) (hvc ▸ hw.notAfter_le c hc)
  cases v
  cases w
  simp_all

/-- A chain is accepted if and only if it is acceptable for some end entity, and the verdict
describes it. -/
theorem validateChain_eq_ok_iff {anchors chain : List Certificate} {now : Duration}
    {v : ValidatedChain} :
    validateChain anchors chain now = .ok v ↔
      IsAcceptable anchors chain now v.endEntity ∧ Describes v chain := by
  cases chain with
  | nil =>
    simp only [validateChain, reduceCtorEq, false_iff]
    rintro ⟨h, -⟩
    exact absurd h.endEntity_lt (Nat.not_lt_zero _)
  | cons leaf rest =>
    rw [validateChain_cons_eq_ok_iff]
    refine and_congr_right fun h => ?_
    have hverdict := describes_verdict h.endEntityIndex?_eq
    exact ⟨fun hv => hv ▸ hverdict, fun hv => hv.eq hverdict rfl⟩

theorem exists_validateChain_eq_ok_iff {anchors chain : List Certificate} {now : Duration} :
    (∃ v, validateChain anchors chain now = .ok v) ↔ ∃ e, IsAcceptable anchors chain now e := by
  refine ⟨fun ⟨v, hv⟩ => ⟨v.endEntity, (validateChain_eq_ok_iff.1 hv).1⟩, ?_⟩
  rintro ⟨e, h⟩
  cases chain with
  | nil => exact absurd h.endEntity_lt (Nat.not_lt_zero e)
  | cons leaf rest => exact ⟨verdict leaf rest e, validateChain_cons_eq_ok_iff.2 ⟨h, rfl⟩⟩

/-- The chain validator accepts exactly the well formed chains that lead to a trust anchor. -/
theorem validateChain_accepts_iff (anchors chain : List Certificate) (now : Duration) :
    ((∃ v, validateChain anchors chain now = .ok v) ↔
      ∃ e, IsAcceptable anchors chain now e) ∧
    ∀ v, validateChain anchors chain now = .ok v ↔
      IsAcceptable anchors chain now v.endEntity ∧ Describes v chain ∧ now ≤ v.notAfter := by
  refine ⟨exists_validateChain_eq_ok_iff, fun v => ?_⟩
  rw [validateChain_eq_ok_iff]
  refine and_congr_right fun h => ⟨fun hv => ⟨hv, ?_⟩, And.left⟩
  obtain ⟨c, hc, hlast⟩ := hv.notAfter_mem
  exact hlast ▸ (h.valid c hc).2

end Chain

end GridAuthz
