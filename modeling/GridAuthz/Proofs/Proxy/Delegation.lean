import Mathlib.Data.List.Induction
import GridAuthz.Proofs.Proxy.Issuing

/-!
# Delegating in several steps

A credential issues a proxy, the proxy another one, and so on (`Credential.issueAll`). The chain of
the last one begins with all proxies that were issued, the last one first, and each is a proxy of
the next as it was requested (`delegates_of_issueAll`). The end entity is the one that was there
(`Delegates.endEntityIndex?_eq`).
-/

namespace GridAuthz

/-- A request with what else is given from outside when it is met. -/
structure Issuance where
  /-- The request. -/
  request : ProxyRequest
  /-- The moment. -/
  now : Duration
  /-- The new key. -/
  key : RsaPrivateKey
  /-- The serial number. -/
  serial : UInt32

/-- Issues a proxy, another one with the first, and so on. -/
def Credential.issueAll (c : Credential) (levels : List Issuance) : Except IssueError Credential :=
  levels.foldlM (fun c l => l.request.issue c l.now l.key l.serial) c

/-! ### One step -/

/-- The certificate is a proxy of another one, and what it says is what was requested. -/
structure Certificate.IsProxyOf (c issuer : Certificate) (r : ProxyRequest) : Prop where
  /-- It says of itself what was requested. -/
  proxyInfo : c.proxyInfo (some issuer) = .ok (some r.proxyInfo)
  /-- It names its issuer. -/
  agrees : c.issuer.agrees issuer.subject = true
  /-- It is no authority. -/
  isAuthority : c.isAuthority = false

theorem ProxyRequest.Issued.isProxyOf {r : ProxyRequest} {c d : Credential} {key : RsaPrivateKey}
    {serial : UInt32} (h : r.Issued c key serial d) (htexts : c.leaf.subject.HasOnlyTexts) :
    d.leaf.IsProxyOf c.leaf r where
  proxyInfo := h.proxyInfo_leaf htexts
  agrees := by
    rw [h.issuer_eq]
    exact Name.agrees_self_iff.2 htexts
  isAuthority := h.isAuthority

/-! ### All steps -/

variable {c d : Credential} {levels : List Issuance}

theorem Credential.issueAll_append_singleton_eq_ok_iff {l : Issuance} :
    c.issueAll (levels ++ [l]) = .ok d ↔
      ∃ e, c.issueAll levels = .ok e ∧ l.request.issue e l.now l.key l.serial = .ok d := by
  simp only [issueAll, List.foldlM_append, bind_eq_ok_iff, List.foldlM_cons, List.foldlM_nil,
    pure_eq_ok_iff, exists_eq_right]

/-- The chain of `d` is that of `c` with one proxy for each level in front, the last one first. -/
structure Delegates (c : Credential) (levels : List Issuance) (d : Credential) : Prop where
  /-- The last name can be compared. -/
  hasOnlyTexts : d.leaf.subject.HasOnlyTexts
  /-- There is one more certificate for each level. -/
  length_eq : d.chain.length = levels.length + c.chain.length
  /-- The other certificates are those of the chain that was there. -/
  drop_eq : d.chain.drop levels.length = c.chain
  /-- Each proxy is one of the next certificate, as requested on its level. -/
  isProxyOf : ∀ (i : Nat) (l : Issuance), levels.reverse[i]? = some l →
    ∃ x y, d.chain[i]? = some x ∧ d.chain[i + 1]? = some y ∧ x.IsProxyOf y l.request

/-- One more proxy is issued with the last credential. -/
theorem Delegates.concat {l : Issuance} {e : Credential} (h : Delegates c levels d)
    (hissued : l.request.Issued d l.key l.serial e) : Delegates c (levels ++ [l]) e where
  hasOnlyTexts := hissued.hasOnlyTexts h.hasOnlyTexts
  length_eq := by
    have hlength := h.length_eq
    simp only [Credential.chain, hissued.issuers_eq, List.length_cons, List.length_append,
      List.length_nil] at hlength ⊢
    omega
  drop_eq := by
    rw [List.length_append, List.length_singleton, Credential.chain, List.drop_succ_cons,
      hissued.issuers_eq, h.drop_eq]
  isProxyOf := by
    intro i k hk
    rw [List.reverse_append, List.reverse_singleton, List.singleton_append] at hk
    rw [Credential.chain, hissued.issuers_eq]
    cases i with
    | zero =>
      cases hk
      exact ⟨e.leaf, d.leaf, rfl, rfl, hissued.isProxyOf h.hasOnlyTexts⟩
    | succ i => exact h.isProxyOf i k hk

theorem delegates_of_issueAll (htexts : c.leaf.subject.HasOnlyTexts)
    (h : c.issueAll levels = .ok d) : Delegates c levels d := by
  induction levels using List.reverseRecOn generalizing d with
  | nil =>
    cases h
    exact ⟨htexts, by simp, rfl, by simp⟩
  | append_singleton levels l ih =>
    obtain ⟨e, he, hd⟩ := Credential.issueAll_append_singleton_eq_ok_iff.1 h
    exact (ih he).concat (ProxyRequest.issued_of_issue hd)

/-- If the new public keys can be read, each proxy is signed by the next certificate, and the last
private key belongs to the last proxy. -/
theorem signed_of_issueAll (hkey : c.privateKey.isKeyOf c.leaf = true)
    (h : c.issueAll levels = .ok d)
    (hread : ∀ x ∈ d.chain.take levels.length, x.publicKey?.isSome = true) :
    d.privateKey.isKeyOf d.leaf = true ∧ ∀ i < levels.length, ∀ x y, d.chain[i]? = some x →
      d.chain[i + 1]? = some y → x.IsSignedBy y := by
  induction levels using List.reverseRecOn generalizing d with
  | nil =>
    cases h
    exact ⟨hkey, by simp⟩
  | append_singleton levels l ih =>
    obtain ⟨e, he, hd⟩ := Credential.issueAll_append_singleton_eq_ok_iff.1 h
    have hissued := ProxyRequest.issued_of_issue hd
    rw [List.length_append, List.length_singleton, Credential.chain, hissued.issuers_eq,
      List.take_succ_cons, List.forall_mem_cons] at hread
    obtain ⟨hkey', hsigned⟩ := ih he hread.2
    refine ⟨hissued.isKeyOf hread.1, fun i hi x y hx hy => ?_⟩
    rw [Credential.chain, hissued.issuers_eq] at hx hy
    cases i with
    | zero =>
      cases hx
      cases hy
      exact hissued.isSignedBy hkey'
    | succ i =>
      rw [List.length_append, List.length_singleton] at hi
      exact hsigned i (by omega) x y hx hy

/-! ### The end entity -/

/-- After the proxies comes the chain that was there. -/
theorem Delegates.getElem?_add (h : Delegates c levels d) (i : Nat) :
    d.chain[levels.length + i]? = c.chain[i]? := by
  rw [← h.drop_eq, List.getElem?_drop]

theorem Delegates.mem_chain_iff (h : Delegates c levels d) {x : Certificate} :
    x ∈ d.chain ↔ x ∈ d.chain.take levels.length ∨ x ∈ c.chain := by
  rw [← h.drop_eq, ← List.mem_append, List.take_append_drop]

theorem Delegates.isProxyAt_add_iff (h : Delegates c levels d) {i : Nat} {info : ProxyInfo} :
    IsProxyAt d.chain (levels.length + i) info ↔ IsProxyAt c.chain i info := by
  rw [IsProxyAt, IsProxyAt, Nat.add_assoc, h.getElem?_add, h.getElem?_add]

/-- The proxy at place `i` says what was requested on its level. -/
theorem Delegates.isProxyAt (h : Delegates c levels d) {i : Nat} {l : Issuance}
    (hl : levels.reverse[i]? = some l) : IsProxyAt d.chain i l.request.proxyInfo := by
  obtain ⟨x, y, hx, hy, hproxy⟩ := h.isProxyOf i l hl
  exact ⟨x, hx, hy ▸ hproxy.proxyInfo⟩

theorem exists_level {i : Nat} (hi : i < levels.length) : ∃ l, levels.reverse[i]? = some l :=
  Option.isSome_iff_exists.1 (by simpa using hi)

theorem lt_of_level {i : Nat} {l : Issuance} (hl : levels.reverse[i]? = some l) :
    i < levels.length := by
  simpa using (List.getElem?_eq_some_iff.1 hl).1

/-- Each certificate before the end entity is a proxy of the next one, as requested on its level. -/
theorem Delegates.exists_isProxyOf (h : Delegates c levels d) {i : Nat} (hi : i < levels.length)
    {x y : Certificate} (hx : d.chain[i]? = some x) (hy : d.chain[i + 1]? = some y) :
    ∃ l, levels.reverse[i]? = some l ∧ x.IsProxyOf y l.request := by
  obtain ⟨l, hl⟩ := exists_level hi
  obtain ⟨x', y', hx', hy', hproxy⟩ := h.isProxyOf i l hl
  cases hx.symm.trans hx'
  cases hy.symm.trans hy'
  exact ⟨l, hl, hproxy⟩

theorem Delegates.endEntityIndex?_eq (h : Delegates c levels d)
    (hc : endEntityIndex? c.chain = some 0) :
    endEntityIndex? d.chain = some levels.length := by
  obtain ⟨hlt, -, hnot⟩ := (endEntityIndex?_eq_some_iff _ _).1 hc
  refine (endEntityIndex?_eq_some_iff _ _).2 ⟨?_, fun i hi => ?_, fun info => ?_⟩
  · have hlength := h.length_eq
    omega
  · obtain ⟨l, hl⟩ := exists_level hi
    exact ⟨_, h.isProxyAt hl⟩
  · exact h.isProxyAt_add_iff.not.2 (hnot info)

/-- Up to the end entity that was there, only the levels make proxies. -/
theorem Delegates.isProxyAt_iff (h : Delegates c levels d) (hc : endEntityIndex? c.chain = some 0)
    {i : Nat} (hi : i ≤ levels.length) {info : ProxyInfo} :
    IsProxyAt d.chain i info ↔
      ∃ l, levels.reverse[i]? = some l ∧ l.request.proxyInfo = info := by
  rcases Nat.lt_or_eq_of_le hi with hlt | rfl
  · obtain ⟨l, hl⟩ := exists_level hlt
    simp only [hl, Option.some.injEq, exists_eq_left']
    refine ⟨fun hinfo => (h.isProxyAt hl).unique hinfo, ?_⟩
    rintro rfl
    exact h.isProxyAt hl
  · have hnot := ((endEntityIndex?_eq_some_iff _ _).1 hc).2.2 info
    simpa using h.isProxyAt_add_iff.not.2 hnot

end GridAuthz
