import GridAuthz.Proofs.Chain.Delegation

/-!
# Credentials that can be had

A credential is put together from a key and a chain, read from texts or from files, or issued with
one that was there before (`Credential.IsReachable`). Only the first way checks the key, and issuing
relies on the key it has just made. What every credential keeps is stated once
(`Credential.IsUsable`): putting one together gives it (`Credential.isUsable_of_isKeyOf`), reading
puts one together (`Credential.exists_ofChain_of_readPem`), and a round of issuing carries it on
(`Credential.IsUsable.issued`).
-/

namespace GridAuthz.Credential

variable {c d : Credential} {rounds : Nat}

/-! ### Ways to a credential -/

/-- The credential can be had, and `rounds` proxies were issued since it was put together or read. -/
inductive IsReachable : Nat → Credential → Prop where
  /-- It is put together from a key and a chain. -/
  | ofChain {c : Credential} {key : RsaPrivateKey} {chain : List Certificate}
      (h : Credential.ofChain key chain = .ok c) : IsReachable 0 c
  /-- It is read from texts. -/
  | readPem {c : Credential} {certificates key : String} {password : Option String}
      (h : Credential.readPem certificates key password = .ok c) : IsReachable 0 c
  /-- It is read from files. -/
  | source {c : Credential} {source : CredentialSource} {tree : FileTree} {password : Option String}
      (h : source.credential tree password = .ok (some c)) : IsReachable 0 c
  /-- It is issued with a credential that can be had. -/
  | issue {c d : Credential} {rounds : Nat} {r : ProxyRequest} {now : Duration}
      {key : RsaPrivateKey} {serial : UInt32} (hc : IsReachable rounds c)
      (h : r.issue c now key serial = .ok d) : IsReachable (rounds + 1) d

/-- A credential is put together from a chain exactly if the key belongs to its first certificate. -/
theorem ofChain_eq_ok_iff {key : RsaPrivateKey} {chain : List Certificate} :
    ofChain key chain = .ok c ↔
      c.chain = chain ∧ c.privateKey = key ∧ c.privateKey.isKeyOf c.leaf = true := by
  constructor
  · intro h
    refine ⟨?_, ?_, isKeyOf_of_ofChain h⟩
    all_goals
      cases chain with
      | nil => cases h
      | cons leaf issuers =>
        rw [ofChain] at h
        split_ifs at h
        cases h
        rfl
  · rintro ⟨rfl, rfl, hkey⟩
    obtain ⟨pk, -, hread⟩ := RsaPrivateKey.isKeyOf_iff.1 hkey
    rw [chain, ofChain, if_neg (by simp [hread]), if_pos hkey]

theorem exists_ofChain_of_unlock {text : CredentialText} {password : Option String}
    (h : text.unlock password = .ok c) : ∃ key chain, ofChain key chain = .ok c := by
  cases text with
  | clear chain key => exact ⟨key, chain, h⟩
  | locked chain contents =>
    cases password with
    | none => cases h
    | some password =>
      rw [CredentialText.unlock] at h
      split at h
      · exact ⟨_, chain, h⟩
      · cases h

theorem exists_ofChain_of_readPem {certificates key : String} {password : Option String}
    (h : readPem certificates key password = .ok c) : ∃ key chain, ofChain key chain = .ok c := by
  rw [readPem, bind_eq_ok_iff] at h
  obtain ⟨text, -, h⟩ := h
  exact exists_ofChain_of_unlock h

theorem exists_ofChain_of_source {source : CredentialSource} {tree : FileTree}
    {password : Option String} (h : source.credential tree password = .ok (some c)) :
    ∃ key chain, ofChain key chain = .ok c := by
  rw [CredentialSource.credential, bind_eq_ok_iff] at h
  obtain ⟨text?, -, h⟩ := h
  cases text? with
  | none => cases h
  | some text =>
    have hunlock : text.unlock password = .ok c := by
      cases hunlock : text.unlock password with
      | error error => simp [hunlock] at h
      | ok found => simpa [hunlock] using h
    exact exists_ofChain_of_unlock hunlock

/-! ### What a credential keeps -/

/-- What holds of a credential after `rounds` proxies were issued. -/
structure IsUsable (rounds : Nat) (c : Credential) : Prop where
  /-- Each proxy has a certificate behind it. -/
  rounds_lt : rounds < c.chain.length
  /-- The key of the leaf can be read, if the leaf was not issued just now. -/
  isSome_of_eq_zero : rounds = 0 → c.leaf.publicKey?.isSome = true
  /-- If it can be read, it is the public key of the private key. -/
  exists_publicKey : c.leaf.publicKey?.isSome = true →
    ∃ pk, c.privateKey.publicKey? = some pk ∧ c.leaf.publicKey? = some (.rsa pk)
  /-- A leaf that was issued holds the numbers of the private key in any case. -/
  publicKey_eq : 0 < rounds → c.leaf.body.publicKey = ProxyRequest.publicKeyInfo c.privateKey
  /-- Each proxy has the next certificate for its issuer, by the same name. -/
  issuer_eq : ∀ i < rounds, ∀ x y, c.chain[i]? = some x → c.chain[i + 1]? = some y →
    x.issuer = y.subject
  /-- Each proxy is signed with the key of the next certificate, if that can be read. -/
  isSignedBy : ∀ i < rounds, ∀ x y, c.chain[i]? = some x → c.chain[i + 1]? = some y →
    y.publicKey?.isSome = true → x.IsSignedBy y

theorem isUsable_of_isKeyOf (h : c.privateKey.isKeyOf c.leaf = true) : IsUsable 0 c := by
  obtain ⟨pk, hpk, hleaf⟩ := RsaPrivateKey.isKeyOf_iff.1 h
  exact {
    rounds_lt := Nat.succ_pos _
    isSome_of_eq_zero := fun _ => by rw [hleaf, Option.isSome_some]
    exists_publicKey := fun _ => ⟨pk, hpk, hleaf⟩
    publicKey_eq := fun hlt => absurd hlt (Nat.lt_irrefl 0)
    issuer_eq := fun i hi => absurd hi (Nat.not_lt_zero i)
    isSignedBy := fun i hi => absurd hi (Nat.not_lt_zero i) }

theorem isUsable_of_ofChain {key : RsaPrivateKey} {chain : List Certificate}
    (h : ofChain key chain = .ok c) : IsUsable 0 c :=
  isUsable_of_isKeyOf (isKeyOf_of_ofChain h)

section Issued

variable {r : ProxyRequest} {key : RsaPrivateKey} {serial : UInt32}

/-- A proxy is signed with the key of the leaf it was issued with, if that can be read. -/
theorem IsUsable.isSignedBy_leaf (h : IsUsable rounds c) (hissued : r.Issued c key serial d)
    (hread : c.leaf.publicKey?.isSome = true) : d.leaf.IsSignedBy c.leaf :=
  hissued.isSignedBy (RsaPrivateKey.isKeyOf_iff.2 (h.exists_publicKey hread))

theorem IsUsable.issued (h : IsUsable rounds c) (hissued : r.Issued c key serial d) :
    IsUsable (rounds + 1) d where
  rounds_lt := by
    rw [chain, hissued.issuers_eq, List.length_cons]
    exact Nat.succ_lt_succ h.rounds_lt
  isSome_of_eq_zero := fun hzero => absurd hzero (Nat.succ_ne_zero rounds)
  exists_publicKey := fun hread => RsaPrivateKey.isKeyOf_iff.1 (hissued.isKeyOf hread)
  publicKey_eq := fun _ => by rw [hissued.publicKey_eq, hissued.privateKey_eq]
  issuer_eq := by
    intro i hi x y hx hy
    rw [chain, hissued.issuers_eq] at hx hy
    cases i with
    | zero =>
      cases hx
      cases hy
      exact hissued.issuer_eq
    | succ i => exact h.issuer_eq i (Nat.lt_of_succ_lt_succ hi) x y hx hy
  isSignedBy := by
    intro i hi x y hx hy hread
    rw [chain, hissued.issuers_eq] at hx hy
    cases i with
    | zero =>
      cases hx
      cases hy
      exact h.isSignedBy_leaf hissued hread
    | succ i => exact h.isSignedBy i (Nat.lt_of_succ_lt_succ hi) x y hx hy hread

end Issued

theorem isUsable_of_isReachable (h : IsReachable rounds c) : IsUsable rounds c := by
  induction h with
  | ofChain h => exact isUsable_of_ofChain h
  | readPem h =>
    obtain ⟨key, chain, h⟩ := exists_ofChain_of_readPem h
    exact isUsable_of_ofChain h
  | source h =>
    obtain ⟨key, chain, h⟩ := exists_ofChain_of_source h
    exact isUsable_of_ofChain h
  | issue hc h ih => exact ih.issued (ProxyRequest.issued_of_issue h)

/-- Every credential is usable: it has a leaf, whose key is that of its private key, and behind each
proxy that was issued comes the certificate that has signed it. No chain but one that begins with a
certificate of the key makes a credential, and issuing puts one proxy in front of the chain, which
names the next certificate as it is and is signed with its key. -/
theorem usable_of_isReachable :
    (∀ rounds c, IsReachable rounds c → IsUsable rounds c) ∧
    (∀ key chain c, ofChain key chain = .ok c ↔
      c.chain = chain ∧ c.privateKey = key ∧ c.privateKey.isKeyOf c.leaf = true) ∧
    ∀ (rounds : Nat) (c d : Credential) (r : ProxyRequest) (now : Duration) (key : RsaPrivateKey)
      (serial : UInt32), IsReachable rounds c → r.issue c now key serial = .ok d →
        IsReachable (rounds + 1) d ∧ d.chain = d.leaf :: c.chain ∧ d.privateKey = key ∧
          d.leaf.issuer = c.leaf.subject ∧
          (c.leaf.publicKey?.isSome = true → d.leaf.IsSignedBy c.leaf) := by
  refine ⟨fun _ _ => isUsable_of_isReachable, fun _ _ _ => ofChain_eq_ok_iff, ?_⟩
  intro rounds c d r now key serial hc h
  have hissued := ProxyRequest.issued_of_issue h
  have hchain : d.chain = d.leaf :: c.chain := by rw [chain, hissued.issuers_eq]
  exact ⟨hc.issue h, hchain, hissued.privateKey_eq, hissued.issuer_eq,
    (isUsable_of_isReachable hc).isSignedBy_leaf hissued⟩

/-- A credential with two proxies, one issued with the other. -/
theorem usable_of_isReachable_second :
    IsReachable 2 Sample.second ∧ IsUsable 2 Sample.second ∧
      Sample.second.leaf.IsSignedBy Sample.first.leaf ∧
      Sample.first.leaf.IsSignedBy Sample.credential.leaf := by
  obtain ⟨husable, hofChain, hissue⟩ := usable_of_isReachable
  have hcredential : IsReachable 0 Sample.credential :=
    .ofChain ((hofChain _ _ _).2 ⟨rfl, rfl, by decide +kernel⟩)
  obtain ⟨hfirst, -, -, -, hsigned⟩ := hissue _ _ _ _ _ _ _ hcredential Sample.issue_first
  obtain ⟨hsecond, -, -, -, hsigned'⟩ := hissue _ _ _ _ _ _ _ hfirst Sample.issue_second
  exact ⟨hsecond, husable _ _ hsecond, hsigned' (by decide +kernel), hsigned (by decide +kernel)⟩

end GridAuthz.Credential
