import GridAuthz.Proofs.Chain.Delegation

/-!
# Chains without their first proxy

A proxy adds its own restrictions to those of the chain that it is put before. A chain that begins
with a proxy is accepted exactly if the rest is accepted, the proxy is one of the next certificate
and no proxy of the rest allows too few (`validateChain_cons_iff`). The verdict is that on the rest,
cut down by what the proxy says (`ValidatedChain.behind`), so no proxies that are put before a
chain give rights that it did not have (`validateChain_drop`).
-/

namespace GridAuthz

/-! ### Verdicts in order -/

/-- A verdict gives no more rights than another one. -/
structure ValidatedChain.IsWithin (v w : ValidatedChain) : Prop where
  /-- They do not end later. -/
  notAfter_le : v.notAfter ≤ w.notAfter
  /-- They are limited if the others are. -/
  limited : w.limited = true → v.limited = true

theorem ValidatedChain.IsWithin.refl (v : ValidatedChain) : v.IsWithin v := ⟨le_rfl, id⟩

theorem ValidatedChain.IsWithin.trans {u v w : ValidatedChain} (huv : u.IsWithin v)
    (hvw : v.IsWithin w) : u.IsWithin w :=
  ⟨huv.notAfter_le.trans hvw.notAfter_le, fun h => huv.limited (hvw.limited h)⟩

/-- The verdict on a chain that a proxy was put before. -/
def ValidatedChain.behind (v : ValidatedChain) (info : ProxyInfo) (expiry : Duration) :
    ValidatedChain where
  endEntity := v.endEntity + 1
  proxyKind := some info.kind
  limited := info.limited || v.limited
  notAfter := min expiry v.notAfter

theorem ValidatedChain.isWithin_behind (v : ValidatedChain) (info : ProxyInfo)
    (expiry : Duration) : (v.behind info expiry).IsWithin v :=
  ⟨min_le_right _ _, fun h => by simp [behind, h]⟩

namespace Chain

/-! ### Path lengths -/

/-- The proxies of a chain allow that `count` more are put before it. -/
def AllowsMore (count : Nat) (chain : List Certificate) (endEntity : Nat) : Prop :=
  ∀ i < endEntity, ∀ info allowed, IsProxyAt chain i info → info.pathLength = some allowed →
    i + count ≤ allowed.toNat

/-- What is taken off the front of a chain still counts. -/
theorem AllowsMore.drop {count endEntity : Nat} {chain : List Certificate}
    (h : AllowsMore count chain endEntity) (k : Nat) :
    AllowsMore (k + count) (chain.drop k) (endEntity - k) := by
  rintro i hi info allowed ⟨c, hc, hinfo⟩ hallowed
  rw [List.getElem?_drop] at hc hinfo
  have := h (k + i) (by omega) info allowed ⟨c, hc, hinfo⟩ hallowed
  omega

theorem IsAcceptable.allowsMore_zero {anchors chain : List Certificate} {now : Duration} {e : Nat}
    (h : IsAcceptable anchors chain now e) : AllowsMore 0 chain e := by
  rintro i hi info allowed ⟨c, hc, hinfo⟩ hallowed
  have hlt := h.endEntity_lt
  have hissuer : chain[i + 1]? = some chain[i + 1] := List.getElem?_eq_getElem (by omega)
  obtain ⟨info', hinfo', hallows⟩ := h.proxy i hi c _ hc hissuer
  rw [hissuer, hinfo'] at hinfo
  cases hinfo
  exact hallows.1 allowed hallowed

/-! ### One proxy more -/

/-- A certificate is a valid proxy of the next one, which says `info` of itself. -/
structure IsProxyBefore (now : Duration) (info : ProxyInfo) (p issuer : Certificate) : Prop where
  /-- It is valid. -/
  valid : p.notBefore ≤ now ∧ now ≤ p.notAfter
  /-- It is a proxy. -/
  proxyInfo : p.proxyInfo (some issuer) = .ok (some info)
  /-- It is no authority. -/
  isAuthority : p.isAuthority = false
  /-- Nor is its issuer. -/
  isAuthority_issuer : issuer.isAuthority = false
  /-- It names its issuer. -/
  agrees : p.issuer.agrees issuer.subject = true
  /-- Its issuer has signed it. -/
  isSignedBy : p.IsSignedBy issuer

variable {anchors rest : List Certificate} {p leaf : Certificate} {now : Duration} {e : Nat}

theorem IsAcceptable.tail (h : IsAcceptable anchors (p :: leaf :: rest) now (e + 1)) :
    IsAcceptable anchors (leaf :: rest) now e where
  endEntity_lt := Nat.lt_of_succ_lt_succ h.endEntity_lt
  valid := fun c hc => h.valid c (List.mem_cons_of_mem p hc)
  proxy := by
    intro i hi c issuer hc hissuer
    obtain ⟨info, hinfo, hallows, hc', hissuer'⟩ := h.proxy (i + 1) (by omega) c issuer hc hissuer
    exact ⟨info, hinfo, fun allowed hallowed => (Nat.le_succ i).trans (hallows allowed hallowed),
      hc', hissuer'⟩
  noProxy := h.noProxy
  issued := by
    intro i c issuer hc hissuer
    obtain ⟨hagrees, hauthority, hsigned⟩ := h.issued (i + 1) c issuer hc hissuer
    exact ⟨hagrees, fun hi => hauthority (by omega), hsigned⟩
  anchored := fun c hc => h.anchored c (by rwa [List.getLast?_cons_cons])

theorem IsAcceptable.isProxyBefore (h : IsAcceptable anchors (p :: leaf :: rest) now (e + 1)) :
    ∃ info, IsProxyBefore now info p leaf := by
  obtain ⟨info, hinfo, -, hauthority, hauthority'⟩ := h.proxy 0 e.succ_pos p leaf rfl rfl
  obtain ⟨hagrees, -, hsigned⟩ := h.issued 0 p leaf rfl rfl
  exact ⟨info, h.valid p List.mem_cons_self, hinfo, hauthority, hauthority', hagrees, hsigned⟩

theorem IsAcceptable.cons {info : ProxyInfo} (h : IsAcceptable anchors (leaf :: rest) now e)
    (hp : IsProxyBefore now info p leaf) (hmore : AllowsMore 1 (leaf :: rest) e) :
    IsAcceptable anchors (p :: leaf :: rest) now (e + 1) where
  endEntity_lt := Nat.succ_lt_succ h.endEntity_lt
  valid := List.forall_mem_cons.2 ⟨hp.valid, h.valid⟩
  proxy := by
    intro i hi c issuer hc hissuer
    cases i with
    | zero =>
      cases hc
      cases hissuer
      exact ⟨info, hp.proxyInfo, fun _ _ => Nat.zero_le _, hp.isAuthority, hp.isAuthority_issuer⟩
    | succ i =>
      rw [List.getElem?_cons_succ] at hc hissuer
      obtain ⟨info', hinfo', -, hauthority⟩ := h.proxy i (by omega) c issuer hc hissuer
      refine ⟨info', hinfo', fun allowed hallowed => ?_, hauthority⟩
      exact hmore i (by omega) info' allowed ⟨c, hc, hissuer ▸ hinfo'⟩ hallowed
  noProxy := h.noProxy
  issued := by
    intro i c issuer hc hissuer
    cases i with
    | zero =>
      cases hc
      cases hissuer
      exact ⟨hp.agrees, fun hle => absurd hle (Nat.not_succ_le_zero e), hp.isSignedBy⟩
    | succ i =>
      obtain ⟨hagrees, hauthority, hsigned⟩ := h.issued i c issuer hc hissuer
      exact ⟨hagrees, fun hle => hauthority (by omega), hsigned⟩
  anchored := fun c hc => h.anchored c (by rwa [List.getLast?_cons_cons] at hc)

/-- A chain that begins with a proxy is acceptable if the rest is, the proxy belongs there and none
of the others allows too few. -/
theorem isAcceptable_cons_succ_iff :
    IsAcceptable anchors (p :: leaf :: rest) now (e + 1) ↔
      IsAcceptable anchors (leaf :: rest) now e ∧ (∃ info, IsProxyBefore now info p leaf) ∧
        AllowsMore 1 (leaf :: rest) e :=
  ⟨fun h => ⟨h.tail, h.isProxyBefore, h.allowsMore_zero.drop 1⟩,
    fun ⟨h, ⟨_, hp⟩, hmore⟩ => h.cons hp hmore⟩

/-! ### Its verdict -/

theorem earliestExpiry_cons :
    earliestExpiry p (leaf :: rest) = min p.notAfter (earliestExpiry leaf rest) := by
  refine eq_of_forall_le_iff fun d => ?_
  rw [le_min_iff, le_earliestExpiry_iff, le_earliestExpiry_iff, List.forall_mem_cons]

theorem verdict_cons {info : ProxyInfo} (hp : IsProxyBefore now info p leaf) :
    verdict p (leaf :: rest) (e + 1) = (verdict leaf rest e).behind info p.notAfter := by
  have hproxies : leadingProxies (p :: leaf :: rest) = info :: leadingProxies (leaf :: rest) := by
    rw [leadingProxies, List.head?_cons, hp.proxyInfo]
  simp [verdict, ValidatedChain.behind, hproxies, earliestExpiry_cons]

end Chain

variable {anchors chain : List Certificate} {p : Certificate} {now : Duration}
  {v w : ValidatedChain}

/-- A chain that begins with a proxy is accepted exactly if the rest is accepted, the proxy belongs
there and none of the others allows too few. The verdict on the rest is then cut down. -/
theorem validateChain_cons_iff :
    validateChain anchors (p :: chain) now = .ok v ∧ 1 ≤ v.endEntity ↔
      ∃ w, validateChain anchors chain now = .ok w ∧
        (∃ leaf info, chain.head? = some leaf ∧ Chain.IsProxyBefore now info p leaf ∧
          v = w.behind info p.notAfter) ∧
        Chain.AllowsMore 1 chain w.endEntity := by
  cases chain with
  | nil =>
    -- a certificate alone can only be the end entity, and without certificates nothing is accepted
    rw [Chain.validateChain_cons_eq_ok_iff]
    constructor
    · rintro ⟨⟨h, -⟩, hend⟩
      have hlt : v.endEntity < 1 := h.endEntity_lt
      omega
    · rintro ⟨w, hw, -⟩
      simp [validateChain] at hw
  | cons leaf rest =>
    simp only [Chain.validateChain_cons_eq_ok_iff, List.head?_cons, Option.some.injEq]
    constructor
    · rintro ⟨⟨h, hv⟩, hend⟩
      obtain ⟨e, he⟩ := Nat.exists_eq_succ_of_ne_zero (Nat.one_le_iff_ne_zero.1 hend)
      rw [he] at h hv
      obtain ⟨hrest, ⟨info, hp⟩, hmore⟩ := Chain.isAcceptable_cons_succ_iff.1 h
      exact ⟨Chain.verdict leaf rest e, ⟨hrest, rfl⟩,
        ⟨leaf, info, rfl, hp, hv.trans (Chain.verdict_cons hp)⟩, hmore⟩
    · rintro ⟨w, ⟨hrest, hw⟩, ⟨_, info, rfl, hp, rfl⟩, hmore⟩
      refine ⟨⟨Chain.isAcceptable_cons_succ_iff.2 ⟨hrest, ⟨info, hp⟩, hmore⟩, ?_⟩, ?_⟩
      · exact (congrArg (·.behind info p.notAfter) hw).trans (Chain.verdict_cons hp).symm
      · exact Nat.succ_le_succ (Nat.zero_le _)

/-- No proxies that stand before the rest of a chain give rights that it does not have, and each
limit on the number of proxies that is stated there counts all of them. -/
theorem validateChain_drop {count : Nat} (h : validateChain anchors chain now = .ok v)
    (hcount : count ≤ v.endEntity) :
    ∃ w, validateChain anchors (chain.drop count) now = .ok w ∧
      w.endEntity = v.endEntity - count ∧ v.IsWithin w ∧
      Chain.AllowsMore count (chain.drop count) w.endEntity := by
  suffices hrun : ∃ w, validateChain anchors (chain.drop count) now = .ok w ∧
      w.endEntity = v.endEntity - count ∧ v.IsWithin w by
    obtain ⟨w, hw, hend, hwithin⟩ := hrun
    have hmore := (Chain.validateChain_eq_ok_iff.1 h).1.allowsMore_zero.drop count
    exact ⟨w, hw, hend, hwithin, hend ▸ hmore⟩
  -- on the number of proxies: the first is taken off, and the verdicts stay in order
  induction count generalizing chain v with
  | zero => exact ⟨v, h, rfl, .refl v⟩
  | succ count ih =>
    cases chain with
    | nil => simp [validateChain] at h
    | cons p chain =>
      obtain ⟨w, hw, ⟨leaf, info, -, -, rfl⟩, -⟩ := validateChain_cons_iff.1 ⟨h, by omega⟩
      obtain ⟨u, hu, hend, hwithin⟩ := ih hw (Nat.le_of_succ_le_succ hcount)
      refine ⟨u, hu, ?_, (w.isWithin_behind info p.notAfter).trans hwithin⟩
      rw [hend, ValidatedChain.behind, Nat.add_sub_add_right]

/-- Without its first proxy an accepted chain is still accepted, with the end entity one place
nearer. Its rights do not end earlier and are not limited unless they were so before, and each limit
on the number of proxies that is stated there counts the first one. -/
theorem validateChain_of_cons (h : validateChain anchors (p :: chain) now = .ok v)
    (hend : 1 ≤ v.endEntity) :
    ∃ w, validateChain anchors chain now = .ok w ∧ w.endEntity = v.endEntity - 1 ∧
      v.notAfter ≤ w.notAfter ∧ (w.limited = true → v.limited = true) ∧
      ∀ i < w.endEntity, ∀ info allowed, IsProxyAt chain i info → info.pathLength = some allowed →
        i + 1 ≤ allowed.toNat := by
  obtain ⟨w, hw, ⟨leaf, info, -, -, rfl⟩, hmore⟩ := validateChain_cons_iff.1 ⟨h, hend⟩
  have hwithin := w.isWithin_behind info p.notAfter
  exact ⟨w, hw, rfl, hwithin.notAfter_le, hwithin.limited, hmore⟩

theorem validateChain_of_cons_sample :
    ∃ v w, validateChain [Sample.anchor] Sample.second.chain Sample.moment = .ok v ∧
      v.endEntity = 2 ∧ validateChain [Sample.anchor] Sample.first.chain Sample.moment = .ok w ∧
      w.endEntity = 1 ∧ v.notAfter ≤ w.notAfter := by
  obtain ⟨v, hv⟩ := Sample.exists_validateChain_second
  have hend : endEntityIndex? Sample.second.chain = some 2 := by decide +kernel
  have hv2 : v.endEntity = 2 := by
    rwa [(Chain.validateChain_eq_ok_iff.1 hv).1.endEntityIndex?_eq, Option.some.injEq] at hend
  obtain ⟨w, hw, hw1, hle, -⟩ := validateChain_of_cons hv (by omega)
  exact ⟨v, w, hv, hv2, hw, by omega, hle⟩

end GridAuthz
