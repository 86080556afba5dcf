import GridAuthz.Proofs.Chain.Delegation
import GridAuthz.Proofs.Names.Agreement

/-!
# Whose proxies they are

In an accepted chain the proxies are named after the end entity: each has one common name more
than the certificate that issued it, so its subject begins with that of the end entity
(`validateChain_identity`).
-/

namespace GridAuthz

/-- A relative name that is just a common name. -/
def IsCommonName (part : RelativeName) : Prop :=
  ∃ a, part.members = [a] ∧ a.kind = AttributeType.commonName

/-- A name consists of another one and `count` common names. -/
structure Name.IsExtension (count : Nat) (n m : Name) : Prop where
  /-- There are that many relative names more. -/
  length_eq : n.parts.length = m.parts.length + count
  /-- The first of them form the other name. -/
  agrees : Name.agrees ⟨n.parts.take m.parts.length⟩ m = true
  /-- The last of them are common names. -/
  commonName : ∀ part ∈ n.parts.drop m.parts.length, IsCommonName part

/-! ### One proxy -/

theorem IsCommonName.of_agrees {p q : RelativeName} (h : Name.partsAgree p q = true)
    (hq : IsCommonName q) : IsCommonName p := by
  obtain ⟨b, hb, hkind⟩ := hq
  rw [Name.partsAgree, Name.allAgree_iff, hb, List.forall₂_cons_right_iff] at h
  obtain ⟨a, as, hagrees, has, hp⟩ := h
  rw [List.forall₂_nil_right_iff] at has
  exact ⟨a, by rw [hp, has], (NameAttribute.agrees_iff.1 hagrees).1.trans hkind⟩

theorem forall_isCommonName_of_agrees {ps qs : List RelativeName}
    (h : List.Forall₂ (fun p q => Name.partsAgree p q = true) ps qs)
    (hqs : ∀ q ∈ qs, IsCommonName q) : ∀ p ∈ ps, IsCommonName p := by
  induction h with
  | nil => simp
  | cons hpq _ ih =>
    rw [List.forall_mem_cons] at hqs ⊢
    exact ⟨.of_agrees hpq hqs.1, ih hqs.2⟩

/-- The name of a proxy is that of its issuer and a common name. -/
theorem Proxy.exists_parts_of_extendsByCommonName {subject issuer : Name}
    (h : extendsByCommonName subject issuer = true) :
    ∃ (parts : List RelativeName) (last : RelativeName), subject.parts = parts ++ [last] ∧
      IsCommonName last ∧ Name.agrees ⟨parts⟩ issuer = true := by
  rw [extendsByCommonName] at h
  split at h
  case h_1 => simp at h
  case h_2 last hlast =>
    simp only [Bool.and_eq_true, decide_eq_true_eq] at h
    obtain ⟨⟨hlength, hname⟩, hagrees⟩ := h
    obtain ⟨parts, hparts⟩ := List.getLast?_eq_some_iff.1 hlast
    obtain ⟨a, ha⟩ := List.length_eq_one_iff.1 hlength
    rw [hparts, List.dropLast_concat] at hagrees
    have hsome : (commonName? a).isSome = true := by
      simpa [lastCommonName?, hlast, ha] using hname
    obtain ⟨text, htext⟩ := Option.isSome_iff_exists.1 hsome
    rw [commonName?, Option.ite_none_right_eq_some] at htext
    exact ⟨parts, last, hparts, ⟨a, ha, htext.1.1⟩, hagrees⟩

/-- A certificate that is a proxy of its issuer has the name of one. -/
theorem Certificate.extendsByCommonName_of_proxyInfo {c issuer : Certificate} {info : ProxyInfo}
    (h : c.proxyInfo (some issuer) = .ok (some info)) :
    Proxy.extendsByCommonName c.subject issuer.subject = true := by
  rw [proxyInfo] at h
  split at h
  case h_1 =>
    simp only [Option.bind_some, Except.ok.injEq, Proxy.legacyInfo?,
      Option.ite_none_right_eq_some] at h
    exact h.1
  case h_2 =>
    simp only [bind_eq_ok_iff, Option.all_some] at h
    obtain ⟨info', -, h⟩ := h
    split_ifs at h with hname
    exact hname

/-! ### Proxies in a row -/

theorem Name.isExtension_one {subject issuer : Name}
    (h : Proxy.extendsByCommonName subject issuer = true) : subject.IsExtension 1 issuer := by
  obtain ⟨parts, last, hparts, hlast, hagrees⟩ := Proxy.exists_parts_of_extendsByCommonName h
  have hlength : parts.length = issuer.parts.length := Name.length_eq_of_agrees hagrees
  refine ⟨by simp [hparts, hlength], ?_, ?_⟩
  · rwa [hparts, ← hlength, List.take_left]
  · rw [hparts, ← hlength, List.drop_left]
    simpa using hlast

/-- The name of a proxy begins as that of its issuer does. -/
theorem Name.IsExtension.succ {subject issuer m : Name} {count : Nat}
    (h : issuer.IsExtension count m) (hname : Proxy.extendsByCommonName subject issuer = true) :
    subject.IsExtension (count + 1) m := by
  obtain ⟨parts, last, hparts, hlast, hagrees⟩ := Proxy.exists_parts_of_extendsByCommonName hname
  have hlength : parts.length = issuer.parts.length := Name.length_eq_of_agrees hagrees
  have hle : m.parts.length ≤ parts.length := by
    have := h.length_eq
    omega
  refine ⟨by simp [hparts, hlength, h.length_eq, Nat.add_assoc], ?_, ?_⟩
  · rw [hparts, List.take_append_of_le_length hle]
    exact Name.agrees_trans (Name.agrees_take hagrees m.parts.length) h.agrees
  · rw [hparts, List.drop_append_of_le_length hle]
    intro part hpart
    rcases List.mem_append.1 hpart with hpart | hpart
    · have hdrop := List.forall₂_drop m.parts.length (Name.agrees_iff.1 hagrees)
      exact forall_isCommonName_of_agrees hdrop h.commonName part hpart
    · rw [List.mem_singleton.1 hpart]
      exact hlast

namespace Chain

variable {anchors chain : List Certificate} {now : Duration} {e : Nat} {E : Certificate}

theorem IsAcceptable.isExtension_of_add_eq (h : IsAcceptable anchors chain now e)
    (hE : chain[e]? = some E) {k i : Nat} (hi : i + (k + 1) = e) {c : Certificate}
    (hc : chain[i]? = some c) : c.subject.IsExtension (k + 1) E.subject := by
  induction k generalizing i c with
  | zero =>
    subst hi
    obtain ⟨info, hinfo, -⟩ := h.proxy i (by omega) c E hc hE
    exact Name.isExtension_one (Certificate.extendsByCommonName_of_proxyInfo hinfo)
  | succ k ih =>
    have hlt := h.endEntity_lt
    have hissuer : chain[i + 1]? = some chain[i + 1] := List.getElem?_eq_getElem (by omega)
    obtain ⟨info, hinfo, -⟩ := h.proxy i (by omega) c _ hc hissuer
    exact (ih (by omega) hissuer).succ (Certificate.extendsByCommonName_of_proxyInfo hinfo)

theorem IsAcceptable.isExtension (h : IsAcceptable anchors chain now e) (hE : chain[e]? = some E)
    {i : Nat} (hi : i < e) {c : Certificate} (hc : chain[i]? = some c) :
    c.subject.IsExtension (e - i) E.subject := by
  obtain ⟨k, hk⟩ := Nat.exists_eq_add_of_lt hi
  have hcount : e - i = k + 1 := by omega
  exact hcount ▸ h.isExtension_of_add_eq hE (by omega) hc

/-- A proxy is issued in the name that its own subject begins with. -/
theorem IsAcceptable.issuer_agrees (h : IsAcceptable anchors chain now e) {i : Nat} (hi : i < e)
    {c : Certificate} (hc : chain[i]? = some c) :
    c.issuer.agrees ⟨c.subject.parts.dropLast⟩ = true := by
  have hlt := h.endEntity_lt
  have hissuer : chain[i + 1]? = some chain[i + 1] := List.getElem?_eq_getElem (by omega)
  obtain ⟨info, hinfo, -⟩ := h.proxy i hi c _ hc hissuer
  obtain ⟨parts, last, hparts, -, hagrees⟩ := Proxy.exists_parts_of_extendsByCommonName
    (Certificate.extendsByCommonName_of_proxyInfo hinfo)
  rw [hparts, List.dropLast_concat]
  exact Name.agrees_trans (h.issued i c _ hc hissuer).1 (Name.agrees_symm hagrees)

/-- The end entity's name agrees with itself if it has a proxy, but need not without one. -/
theorem IsAcceptable.agrees_self_iff (h : IsAcceptable anchors chain now e)
    (hE : chain[e]? = some E) :
    E.subject.agrees E.subject = true ↔ 0 < e ∨ E.subject.HasOnlyTexts := by
  rw [Name.agrees_self_iff]
  refine ⟨.inr, fun hor => hor.elim (fun hpos => ?_) id⟩
  have hlt := h.endEntity_lt
  have hleaf : chain[0]? = some chain[0] := List.getElem?_eq_getElem (by omega)
  exact Name.agrees_self_iff.1 (Name.agrees_self_of_agrees (h.isExtension hE hpos hleaf).agrees)

end Chain

/-! ### The identity of a chain -/

/-- In an accepted chain each certificate up to the end entity is named after it, with as many
common names more as there are proxies in between, and each proxy is issued in the name that its
own subject begins with. Only the end entity of a chain without proxies may have a name that
agrees with none. -/
theorem validateChain_identity {anchors chain : List Certificate} {now : Duration}
    {v : ValidatedChain} (h : validateChain anchors chain now = .ok v) :
    ∃ E, chain[v.endEntity]? = some E ∧
      (∀ i ≤ v.endEntity, ∃ c, chain[i]? = some c ∧
        c.subject.parts.length = E.subject.parts.length + (v.endEntity - i) ∧
        (Name.agrees ⟨c.subject.parts.take E.subject.parts.length⟩ E.subject = true ↔
          0 < v.endEntity ∨ E.subject.HasOnlyTexts) ∧
        ∀ part ∈ c.subject.parts.drop E.subject.parts.length,
          ∃ a, part.members = [a] ∧ a.kind = AttributeType.commonName) ∧
      ∀ i < v.endEntity, ∃ c, chain[i]? = some c ∧
        c.issuer.agrees ⟨c.subject.parts.dropLast⟩ = true := by
  obtain ⟨hacceptable, -⟩ := Chain.validateChain_eq_ok_iff.1 h
  have hlt := hacceptable.endEntity_lt
  have hE : chain[v.endEntity]? = some chain[v.endEntity] := List.getElem?_eq_getElem hlt
  refine ⟨_, hE, fun i hi => ⟨_, List.getElem?_eq_getElem (by omega), ?_⟩,
    fun i hi => ⟨_, List.getElem?_eq_getElem (by omega), ?_⟩⟩
  · rcases Nat.lt_or_eq_of_le hi with hi | rfl
    · have hc : chain[i]? = some chain[i] := List.getElem?_eq_getElem (by omega)
      have hname := hacceptable.isExtension hE hi hc
      exact ⟨hname.length_eq, iff_of_true hname.agrees (.inl (by omega)), hname.commonName⟩
    · refine ⟨by simp, ?_, by simp⟩
      rw [List.take_length]
      exact hacceptable.agrees_self_iff hE
  · exact hacceptable.issuer_agrees hi (List.getElem?_eq_getElem (by omega))

theorem validateChain_identity_sample :
    ∃ v E c, validateChain [Sample.anchor] Sample.second.chain Sample.moment = .ok v ∧
      Sample.second.chain[v.endEntity]? = some E ∧ Sample.second.chain[0]? = some c ∧
      c.subject.parts.length = E.subject.parts.length + v.endEntity := by
  obtain ⟨v, hv⟩ := Sample.exists_validateChain_second
  obtain ⟨E, hE, hnames, -⟩ := validateChain_identity hv
  obtain ⟨c, hc, hlength, -⟩ := hnames 0 (Nat.zero_le _)
  exact ⟨v, E, c, hv, hE, hc, hlength⟩

/-! ### A name that agrees with none -/

namespace Sample

/-- The body of a certificate whose subject is a BMPString. -/
def wideBody : CertificateBody :=
  { body "authority" "user" with
    subject := Name.extend ⟨[]⟩ ⟨AttributeType.commonName, ⟨⟨0x1E, rfl⟩, [0x00, 0x78]⟩⟩ }

end Sample

/-- A chain without proxies is accepted although its end entity has a name that does not agree
with itself. -/
theorem validateChain_wideBody :
    validateChain [Sample.anchor] [Sample.sign Sample.wideBody] Sample.moment =
        .ok (Chain.verdict (Sample.sign Sample.wideBody) [] 0) ∧
      (Sample.sign Sample.wideBody).subject.agrees (Sample.sign Sample.wideBody).subject =
        false := by
  have hissuer : Sample.wideBody.issuer.HasOnlyTexts := by decide +kernel
  exact ⟨Sample.validateChain_sign (by decide +kernel) (Name.agrees_self_iff.2 hissuer)
    (by decide +kernel), by decide +kernel⟩

end GridAuthz
