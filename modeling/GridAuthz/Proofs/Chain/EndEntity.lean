import GridAuthz.Proxy.Recognition

/-!
# The end entity of a chain

The proxies that lead a chain, counted place by place: what the certificate at a place says is
read with the certificate after it as the issuer. The end entity is the first place where a
certificate says nothing of itself as a proxy (`endEntityIndex?_eq_some_iff`).
-/

namespace GridAuthz

/-- The certificate at place `i` of a chain is a proxy of the next one and says `info` of
itself. -/
def IsProxyAt (chain : List Certificate) (i : Nat) (info : ProxyInfo) : Prop :=
  ∃ c, chain[i]? = some c ∧ c.proxyInfo chain[i + 1]? = .ok (some info)

theorem isProxyAt_zero_iff {c : Certificate} {rest : List Certificate} {info : ProxyInfo} :
    IsProxyAt (c :: rest) 0 info ↔ c.proxyInfo rest.head? = .ok (some info) := by
  simp [IsProxyAt, List.head?_eq_getElem?]

theorem isProxyAt_succ_iff {c : Certificate} {rest : List Certificate} {i : Nat}
    {info : ProxyInfo} : IsProxyAt (c :: rest) (i + 1) info ↔ IsProxyAt rest i info := by
  simp [IsProxyAt]

theorem IsProxyAt.unique {chain : List Certificate} {i : Nat} {info info' : ProxyInfo}
    (h : IsProxyAt chain i info) (h' : IsProxyAt chain i info') : info = info' := by
  obtain ⟨c, hc, hi⟩ := h
  obtain ⟨c', hc', hi'⟩ := h'
  rw [hc] at hc'
  cases hc'
  rw [hi] at hi'
  simpa using hi'

/-- The leading proxies are those before which there are only proxies. -/
theorem getElem?_leadingProxies (chain : List Certificate) (i : Nat) (info : ProxyInfo) :
    (leadingProxies chain)[i]? = some info ↔
      IsProxyAt chain i info ∧ ∀ j < i, ∃ info', IsProxyAt chain j info' := by
  induction chain generalizing i with
  | nil => simp [leadingProxies, IsProxyAt]
  | cons c rest ih =>
    rw [leadingProxies]
    split
    case h_1 first hfirst =>
      cases i with
      | zero => simp [isProxyAt_zero_iff, hfirst]
      | succ i =>
        rw [List.getElem?_cons_succ, ih, isProxyAt_succ_iff]
        refine and_congr_right fun _ => ⟨fun h j hj => ?_, fun h j hj => ?_⟩
        · cases j with
          | zero => exact ⟨first, isProxyAt_zero_iff.2 hfirst⟩
          | succ j => exact (h j (by omega)).imp fun _ => isProxyAt_succ_iff.2
        · exact (h (j + 1) (by omega)).imp fun _ => isProxyAt_succ_iff.1
    case h_2 hfirst =>
      have hnot : ∀ info', ¬IsProxyAt (c :: rest) 0 info' :=
        fun info' h => hfirst info' (isProxyAt_zero_iff.1 h)
      simp only [List.getElem?_nil, reduceCtorEq, false_iff]
      rintro ⟨hi, hbefore⟩
      cases i with
      | zero => exact hnot info hi
      | succ i => exact (hbefore 0 (by omega)).elim hnot

theorem lt_length_leadingProxies_iff (chain : List Certificate) (i : Nat) :
    i < (leadingProxies chain).length ↔ ∀ j ≤ i, ∃ info, IsProxyAt chain j info := by
  have hsome : i < (leadingProxies chain).length ↔
      ∃ info, (leadingProxies chain)[i]? = some info :=
    ⟨fun h => ⟨_, List.getElem?_eq_getElem h⟩, fun ⟨_, h⟩ => (List.getElem?_eq_some_iff.1 h).1⟩
  rw [hsome]
  simp only [getElem?_leadingProxies]
  constructor
  · rintro ⟨info, hi, hbefore⟩ j hj
    rcases Nat.lt_or_eq_of_le hj with hj | rfl
    · exact hbefore j hj
    · exact ⟨info, hi⟩
  · intro h
    obtain ⟨info, hi⟩ := h i (Nat.le_refl i)
    exact ⟨info, hi, fun j hj => h j (by omega)⟩

/-- The proxies that lead a chain are those before its end entity. -/
theorem length_leadingProxies_eq {chain : List Certificate} {e : Nat}
    (h : endEntityIndex? chain = some e) : (leadingProxies chain).length = e := by
  simp only [endEntityIndex?, Option.ite_none_right_eq_some, Option.some.injEq] at h
  exact h.2

/-- The end entity is the first certificate that is not a proxy of the next. -/
theorem endEntityIndex?_eq_some_iff (chain : List Certificate) (e : Nat) :
    endEntityIndex? chain = some e ↔
      e < chain.length ∧ (∀ i < e, ∃ info, IsProxyAt chain i info) ∧
        ∀ info, ¬IsProxyAt chain e info := by
  have hlt := lt_length_leadingProxies_iff chain
  have hcount : (leadingProxies chain).length = e ↔
      (∀ i < e, ∃ info, IsProxyAt chain i info) ∧ ∀ info, ¬IsProxyAt chain e info := by
    constructor
    · rintro rfl
      have before := fun i (hi : i < (leadingProxies chain).length) => (hlt i).1 hi i (Nat.le_refl i)
      refine ⟨before, fun info h => ?_⟩
      refine Nat.lt_irrefl _ ((hlt _).2 fun j hj => ?_)
      rcases Nat.lt_or_eq_of_le hj with hj | rfl
      · exact before j hj
      · exact ⟨info, h⟩
    · rintro ⟨before, hnot⟩
      refine Nat.le_antisymm (Nat.le_of_not_lt fun h => ?_) (Nat.le_of_not_lt fun h => ?_)
      · exact ((hlt e).1 h e (Nat.le_refl e)).elim hnot
      · exact Nat.lt_irrefl _ ((hlt _).2 fun j hj => before j (by omega))
  rw [endEntityIndex?, ← hcount]
  simp only [Option.ite_none_right_eq_some, Option.some.injEq]
  exact ⟨fun ⟨h, he⟩ => ⟨he ▸ h, he⟩, fun ⟨h, he⟩ => ⟨he ▸ h, he⟩⟩

end GridAuthz
