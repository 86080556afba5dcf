import GridAuthz.Proofs.Chain.Delegation
import GridAuthz.Proofs.Names.Agreement

/-!
# Trust anchors

The anchors of a chain validator act as a set, and trust only grows with them: more anchors accept
more chains, with the same verdicts, and an anchor that cannot have issued the last certificate of
a chain, whatever its name, does not stand in the way of one that has (`validateChain_anchors`).

A chain may end with the anchor itself or before it. The last certificate is checked against its
issuer in the first case and against all anchors in the second, and what the first accepts the
second does (`validateChain_of_append_anchor`).
-/

namespace GridAuthz

namespace Chain

variable {A B : List Certificate} {now : Duration} {c : Certificate} {e index : Nat}
  {chain : List Certificate}

/-! ### More anchors -/

theorem IsAnchored.mono (hsub : A ⊆ B) (h : IsAnchored A now c) : IsAnchored B now c := by
  obtain ⟨anchor, hanchor, hissued⟩ := h
  exact ⟨anchor, hsub hanchor, hissued⟩

theorem IsAcceptable.mono_anchors
    (hsub : ∀ last, chain.getLast? = some last → IsAnchored A now last → IsAnchored B now last)
    (h : IsAcceptable A chain now e) : IsAcceptable B chain now e :=
  { h with anchored := fun last hlast => hsub last hlast (h.anchored last hlast) }

/-! ### The same anchors -/

theorem mem_candidateAnchors_congr (hmem : ∀ a, a ∈ A ↔ a ∈ B) (a : Certificate) :
    a ∈ candidateAnchors A now c ↔ a ∈ candidateAnchors B now c := by
  simp only [candidateAnchors, List.mem_filter, hmem]

/-- In which order anchors are tried, and how often, makes no difference, not even to the error. -/
theorem checkAnchored_congr (hmem : ∀ a, a ∈ A ↔ a ∈ B) :
    checkAnchored A now index c = checkAnchored B now index c := by
  have hcandidates : ∀ a, a ∈ candidateAnchors A now c ↔ a ∈ candidateAnchors B now c :=
    mem_candidateAnchors_congr hmem
  have hempty : (candidateAnchors A now c).isEmpty = (candidateAnchors B now c).isEmpty := by
    rw [Bool.eq_iff_iff]
    simp only [List.isEmpty_iff, List.eq_nil_iff_forall_not_mem, hcandidates]
  have hany : ∀ p : Certificate → Bool,
      (candidateAnchors A now c).any p = (candidateAnchors B now c).any p := fun p => by
    rw [Bool.eq_iff_iff]
    simp only [List.any_eq_true, hcandidates]
  rw [checkAnchored, checkAnchored, hempty, hany]

theorem checkIssuers_congr (hmem : ∀ a, a ∈ A ↔ a ∈ B) :
    checkIssuers A now e index chain = checkIssuers B now e index chain := by
  fun_induction checkIssuers A now e index chain with
  | case1 => rfl
  | case2 index c => exact checkAnchored_congr hmem
  | case3 index c issuer rest ih => rw [checkIssuers, ih]

theorem validateChain_congr (hmem : ∀ a, a ∈ A ↔ a ∈ B) :
    validateChain A chain now = validateChain B chain now := by
  cases chain with
  | nil => rfl
  | cons leaf rest => simp only [validateChain, checkIssuers_congr hmem]

/-! ### Anchors that make no difference -/

/-- An anchor that cannot have issued a certificate, and why not. It may well have the name of the
issuer. -/
inductive IsUnusable (now : Duration) (c anchor : Certificate) : Prop where
  /-- Its name is another. -/
  | otherName : anchor.subject.agrees c.issuer = false → IsUnusable now c anchor
  /-- It is not valid yet. -/
  | notYetValid : now < anchor.notBefore → IsUnusable now c anchor
  /-- It has expired. -/
  | expired : anchor.notAfter < now → IsUnusable now c anchor
  /-- Its key cannot be read. -/
  | undecodableKey : anchor.publicKey? = none → IsUnusable now c anchor
  /-- Its key is not the one that the signature was made with. -/
  | otherKey (key : PublicKey) : anchor.publicKey? = some key →
      (∀ signature, Signature.of? c.signatureAlgorithm c.signature = some signature →
        key.verifies c.signedBytes signature = false) → IsUnusable now c anchor

/-- Those are all the reasons that there can be. -/
theorem isUnusable_iff {anchor : Certificate} :
    IsUnusable now c anchor ↔ ¬((anchor.notBefore ≤ now ∧ now ≤ anchor.notAfter) ∧
      anchor.subject.agrees c.issuer = true ∧ c.IsSignedBy anchor) := by
  constructor
  · rintro h ⟨⟨hearly, hlate⟩, hname, key, signature, hkey, hsignature, hverifies⟩
    cases h with
    | otherName h => simp [h] at hname
    | notYetValid h => exact absurd h (not_lt.2 hearly)
    | expired h => exact absurd h (not_lt.2 hlate)
    | undecodableKey h => simp [h] at hkey
    | otherKey key' hkey' h =>
      cases hkey.symm.trans hkey'
      simp [h signature hsignature] at hverifies
  · intro h
    by_contra husable
    refine h ⟨⟨not_lt.1 fun hlt => husable (.notYetValid hlt),
      not_lt.1 fun hlt => husable (.expired hlt)⟩, ?_, ?_⟩
    · exact Bool.of_not_eq_false fun hname => husable (.otherName hname)
    · obtain ⟨key, hkey⟩ : ∃ key, anchor.publicKey? = some key :=
        Option.ne_none_iff_exists'.1 fun hkey => husable (.undecodableKey hkey)
      by_contra hsigned
      refine husable (.otherKey key hkey fun signature hsignature => ?_)
      exact Bool.of_not_eq_true fun hverifies =>
        hsigned ⟨key, signature, hkey, hsignature, hverifies⟩

theorem isAnchored_append_iff (hB : ∀ anchor ∈ B, IsUnusable now c anchor) :
    IsAnchored (A ++ B) now c ↔ IsAnchored A now c := by
  refine ⟨?_, .mono (List.subset_append_left A B)⟩
  rintro ⟨anchor, hanchor, hissued⟩
  rcases List.mem_append.1 hanchor with hanchor | hanchor
  · exact ⟨anchor, hanchor, hissued⟩
  · exact absurd hissued (isUnusable_iff.1 (hB anchor hanchor))

theorem isAcceptable_append_iff
    (hB : ∀ last, chain.getLast? = some last → ∀ anchor ∈ B, IsUnusable now last anchor) :
    IsAcceptable (A ++ B) chain now e ↔ IsAcceptable A chain now e :=
  ⟨.mono_anchors fun last hlast => (isAnchored_append_iff (hB last hlast)).1,
    .mono_anchors fun last hlast => (isAnchored_append_iff (hB last hlast)).2⟩

end Chain

open Chain in
/-- The trust anchors are a set that trust grows with: what some of them accept all of them accept
with the same verdict, their order and repetition make no difference to anything, and those that
cannot have issued the last certificate make none to what is accepted. -/
theorem validateChain_anchors (chain : List Certificate) (now : Duration) :
    (∀ A B v, A ⊆ B → validateChain A chain now = .ok v → validateChain B chain now = .ok v) ∧
    (∀ A B, (∀ a, a ∈ A ↔ a ∈ B) → validateChain A chain now = validateChain B chain now) ∧
    ∀ A B, (∀ last, chain.getLast? = some last → ∀ anchor ∈ B, IsUnusable now last anchor) →
      ∀ v, validateChain (A ++ B) chain now = .ok v ↔ validateChain A chain now = .ok v := by
  refine ⟨fun A B v hsub => ?_, fun A B => validateChain_congr, fun A B hB v => ?_⟩
  · rw [validateChain_eq_ok_iff, validateChain_eq_ok_iff]
    exact And.imp_left (.mono_anchors fun _ _ => .mono hsub)
  · rw [validateChain_eq_ok_iff, validateChain_eq_ok_iff, isAcceptable_append_iff hB]

/-! ### A new key for an old name -/

/-- Only an algorithm on the curve makes signatures on the curve. -/
theorem Signature.exists_eq_rsa {algorithm : AlgorithmIdentifier} {bits : Der.BitString}
    {signature : Signature} (h : Signature.of? algorithm bits = some signature)
    (halgorithm : algorithm.algorithm ≠ Algorithm.ecdsaWithSha256) :
    ∃ digest bytes, signature = .rsa digest bytes := by
  simp only [of?, if_neg halgorithm, Option.bind_eq_bind, Option.bind_eq_some_iff,
    Option.map_eq_some_iff] at h
  obtain ⟨bytes, -, digest, -, rfl⟩ := h
  exact ⟨digest, bytes, rfl⟩

namespace Sample

/-- An anchor of the same name that has expired. -/
def expiredAnchor : Certificate :=
  sign { body "authority" "authority" with
    validity := ⟨.utc ⟨2020, 1, 1, 0, 0, 0, by decide⟩ (by decide),
      .utc ⟨2021, 1, 1, 0, 0, 0, by decide⟩ (by decide)⟩ }

/-- An anchor of the same name and time for another public key. -/
def anchorFor (algorithm : Oid) (key : Bytes) : Certificate :=
  sign { body "authority" "authority" with
    publicKey := ⟨⟨algorithm, none⟩, .ofBytes key⟩ }

/-- A point of the curve as a key. -/
def pointKey : Bytes :=
  0x04 :: (Bytes.ofNatWidth 32 P256.Point.base.x ++ Bytes.ofNatWidth 32 P256.Point.base.y)

/-- Three anchors of the same name: one has expired, the next has no readable key, and the last
another one. -/
def otherAnchors : List Certificate :=
  [expiredAnchor, anchorFor Algorithm.rsaEncryption [], anchorFor Algorithm.ecPublicKey pointKey]

theorem isUnusable_otherAnchors :
    ∀ a ∈ otherAnchors, Chain.IsUnusable moment credential.leaf a := by
  simp only [otherAnchors, List.forall_mem_cons, List.not_mem_nil, false_implies, implies_true,
    and_true]
  refine ⟨.expired (by decide +kernel), .undecodableKey (by decide +kernel),
    .otherKey (.ecdsa P256.Point.base) (by decide +kernel) ?_⟩
  intro signature hsignature
  obtain ⟨digest, bytes, rfl⟩ := Signature.exists_eq_rsa hsignature (by decide)
  rfl

end Sample

theorem validateChain_anchors_sample :
    validateChain (Sample.otherAnchors ++ [Sample.anchor, Sample.anchor]) Sample.credential.chain
      Sample.moment = .ok (Chain.verdict Sample.credential.leaf [] 0) := by
  obtain ⟨hmono, hmem, hothers⟩ := validateChain_anchors Sample.credential.chain Sample.moment
  have hunusable : ∀ last, Sample.credential.chain.getLast? = some last →
      ∀ a ∈ Sample.otherAnchors, Chain.IsUnusable Sample.moment last a := by
    rintro last ⟨⟩
    exact Sample.isUnusable_otherAnchors
  have happend := (hothers [Sample.anchor] _ hunusable _).2 Sample.validateChain_credential
  have hfirst := hmono _ (Sample.otherAnchors ++ [Sample.anchor]) _ (by simp) happend
  rw [← hmem (Sample.otherAnchors ++ [Sample.anchor]) _ (by simp)]
  exact hfirst

/-! ### The anchor at the end of a chain -/

/-- A certificate that is no proxy of its issuer makes no claim to be one. -/
theorem Certificate.proxyInfo_none_of_some {c issuer : Certificate}
    (h : c.proxyInfo (some issuer) = .ok none) : c.proxyInfo none = .ok none := by
  rw [proxyInfo] at h ⊢
  split at h
  · rfl
  · simp only [Option.all_some, bind_eq_ok_iff] at h
    obtain ⟨info, -, h⟩ := h
    split at h <;> simp at h

/-- Only the last certificate of a chain is looked at in another way when more follow it. -/
theorem isProxyAt_append_iff {chain more : List Certificate} {i : Nat} {info : ProxyInfo}
    (hi : i + 1 < chain.length) : IsProxyAt (chain ++ more) i info ↔ IsProxyAt chain i info := by
  rw [IsProxyAt, IsProxyAt, List.getElem?_append_left hi, List.getElem?_append_left (by omega)]

namespace Chain

variable {anchors chain : List Certificate} {a : Certificate} {now : Duration} {e : Nat}

/-- The end entity, if it is followed by nothing but the anchor, makes no claim to be a proxy
without it either. -/
theorem IsAcceptable.noProxy_of_append_anchor (h : IsAcceptable anchors (chain ++ [a]) now e)
    (he : e < chain.length) {c : Certificate} (hc : chain[e]? = some c) :
    c.proxyInfo chain[e + 1]? = .ok none := by
  have hsays := h.noProxy c (by rwa [List.getElem?_append_left he])
  rcases Nat.lt_or_eq_of_le (show e + 1 ≤ chain.length from he) with hlt | heq
  · rwa [List.getElem?_append_left hlt] at hsays
  · rw [heq, List.getElem?_concat_length] at hsays
    rw [heq, List.getElem?_eq_none le_rfl]
    exact Certificate.proxyInfo_none_of_some hsays

/-- The anchor that follows the last certificate is the one that has issued it. -/
theorem IsAcceptable.isAnchored_of_append_anchor (h : IsAcceptable anchors (chain ++ [a]) now e)
    {c : Certificate} (hc : chain.getLast? = some c) : IsAnchored [a] now c := by
  obtain ⟨rest, rfl⟩ := List.getLast?_eq_some_iff.1 hc
  obtain ⟨hname, -, hsigned⟩ := h.issued rest.length c a (by simp) (by simp)
  exact ⟨a, List.mem_singleton_self a, h.valid a (by simp), Name.agrees_symm hname, hsigned⟩

theorem IsAcceptable.of_append_anchor (h : IsAcceptable anchors (chain ++ [a]) now e)
    (he : e < chain.length) : IsAcceptable [a] chain now e where
  endEntity_lt := he
  valid := fun c hc => h.valid c (List.mem_append_left [a] hc)
  proxy := by
    intro i hi c issuer hc hissuer
    have hlt := (List.getElem?_eq_some_iff.1 hissuer).1
    exact h.proxy i hi c issuer (by rwa [List.getElem?_append_left (by omega)])
      (by rwa [List.getElem?_append_left hlt])
  noProxy := fun _ => h.noProxy_of_append_anchor he
  issued := by
    intro i c issuer hc hissuer
    have hlt := (List.getElem?_eq_some_iff.1 hissuer).1
    exact h.issued i c issuer (by rwa [List.getElem?_append_left (by omega)])
      (by rwa [List.getElem?_append_left hlt])
  anchored := fun _ => h.isAnchored_of_append_anchor

/-- The anchor takes no part in telling the proxies. -/
theorem IsAcceptable.leadingProxies_append_anchor (h : IsAcceptable anchors (chain ++ [a]) now e)
    (he : e < chain.length) : leadingProxies (chain ++ [a]) = leadingProxies chain := by
  have hcount := length_leadingProxies_eq h.endEntityIndex?_eq
  have hcount' := length_leadingProxies_eq (h.of_append_anchor he).endEntityIndex?_eq
  refine List.ext_getElem? fun i => ?_
  by_cases hi : i < e
  · refine Option.ext fun info => ?_
    rw [getElem?_leadingProxies, getElem?_leadingProxies, isProxyAt_append_iff (by omega)]
    refine and_congr_right fun _ => forall₂_congr fun j hj => exists_congr fun _ => ?_
    rw [isProxyAt_append_iff (by omega)]
  · rw [List.getElem?_eq_none (by omega), List.getElem?_eq_none (by omega)]

theorem earliestExpiry_append_le (c : Certificate) (rest more : List Certificate) :
    earliestExpiry c (rest ++ more) ≤ earliestExpiry c rest := by
  rw [le_earliestExpiry_iff]
  intro x hx
  exact le_earliestExpiry_iff.1 (le_refl (earliestExpiry c (rest ++ more))) x
    (List.mem_append_left more hx)

end Chain

/-- A chain that is accepted with a trust anchor as its last certificate is accepted without it,
with the same verdict except that it may hold longer, provided that the anchor is not itself the
end entity. -/
theorem validateChain_of_append_anchor {anchors chain : List Certificate} {a : Certificate}
    {now : Duration} {v : ValidatedChain} (ha : a ∈ anchors)
    (h : validateChain anchors (chain ++ [a]) now = .ok v) (hend : v.endEntity < chain.length) :
    ∃ w, validateChain anchors chain now = .ok w ∧ w.endEntity = v.endEntity ∧
      w.proxyKind = v.proxyKind ∧ w.limited = v.limited ∧ v.notAfter ≤ w.notAfter := by
  cases chain with
  | nil => exact absurd hend (Nat.not_lt_zero _)
  | cons leaf rest =>
    rw [List.cons_append, Chain.validateChain_cons_eq_ok_iff] at h
    obtain ⟨hacceptable, hv⟩ := h
    have hsub : [a] ⊆ anchors := by simpa using ha
    have hrest : Chain.IsAcceptable anchors (leaf :: rest) now v.endEntity :=
      (hacceptable.of_append_anchor hend).mono_anchors fun _ _ => .mono hsub
    have hproxies := hacceptable.leadingProxies_append_anchor hend
    rw [List.cons_append] at hproxies
    refine ⟨Chain.verdict leaf rest v.endEntity, Chain.validateChain_cons_eq_ok_iff.2 ⟨hrest, rfl⟩,
      rfl, ?_⟩
    rw [hv]
    simp only [Chain.verdict, hproxies, true_and]
    exact Chain.earliestExpiry_append_le leaf rest [a]

namespace Sample

/-- The trust anchor, as a certificate authority. -/
def authority : Certificate :=
  sign { body "authority" "authority" with
    extensions := some [⟨BasicConstraints.extensionId, true,
      (Der.Element.sequence [.ofBool true]).encode⟩] }

/-- A chain that ends with its anchor is acceptable. -/
theorem isAcceptable_anchor :
    Chain.IsAcceptable [authority] (credential.chain ++ [authority]) moment 0 where
  endEntity_lt := by decide
  valid := by decide +kernel
  proxy := fun i hi => absurd hi (Nat.not_lt_zero i)
  noProxy := by
    rintro c ⟨⟩
    decide +kernel
  issued := by
    rintro (_ | _ | i) c issuer hc hissuer
    · cases hc
      cases hissuer
      exact ⟨Name.agrees_self_iff.2 (by decide +kernel), fun _ => by decide +kernel,
        isSignedBy _ (by decide +kernel)⟩
    · simp [credential, Credential.chain] at hissuer
    · simp [credential, Credential.chain] at hissuer
  anchored := by
    rintro c ⟨⟩
    exact ⟨authority, List.mem_singleton_self _, by decide +kernel,
      Name.agrees_self_iff.2 (by decide +kernel), isSignedBy _ (by decide +kernel)⟩

end Sample

theorem validateChain_of_append_anchor_sample :
    ∃ v w, validateChain [Sample.authority] (Sample.credential.chain ++ [Sample.authority])
        Sample.moment = .ok v ∧ v.endEntity = 0 ∧
      validateChain [Sample.authority] Sample.credential.chain Sample.moment = .ok w ∧
      w.endEntity = 0 := by
  have hv : validateChain [Sample.authority] (Sample.credential.chain ++ [Sample.authority])
      Sample.moment = .ok (Chain.verdict Sample.credential.leaf [Sample.authority] 0) :=
    Chain.validateChain_cons_eq_ok_iff.2 ⟨Sample.isAcceptable_anchor, rfl⟩
  obtain ⟨w, hw, hend, -⟩ := validateChain_of_append_anchor (List.mem_singleton_self _) hv (by decide)
  exact ⟨_, w, hv, rfl, hw, hend⟩

end GridAuthz
