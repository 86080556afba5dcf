import GridAuthz.Proofs.Validation.Admission

/-!
# What a returned membership is bound to

An attribute certificate is bound to hosts by its targets, to the end entity by the names of its
holder, and to the authority by its signature. How far a returned membership keeps each of these:

* a host that is declared last has to be this one, but targets of other kinds restrict nothing
  (`Validator.targets_of_mem_accepted`), and neither do hosts in an earlier extension where the last
  one declares none (`Validator.mem_accepted_of_lastTargets`);
* the names of the holder count only if a distinguished name is among them
  (`Validator.holderNames_of_mem_accepted`);
* the signature is verified with the algorithm that is named beside it, whatever the signed part
  says of the algorithm (`Validator.signatureAlgorithm_of_mem_accepted`).
-/

namespace GridAuthz

variable {v : Validator} {trust : TrustSnapshot} {chain : List Certificate} {now : Duration}
  {m : Membership} {accepted : List Membership}

/-! ### Hosts -/

namespace Validator

/-- The validator with another name of the host, or none. -/
def withLocalHost (v : Validator) (localHost : Option String) : Validator :=
  { v with settings := { v.settings with localHost } }

theorem Accepts.withLocalHost (h : v.Accepts trust chain now m) (hm : m.targets = [])
    (localHost : Option String) : (v.withLocalHost localHost).Accepts trust chain now m :=
  ⟨h.holder, h.current, h.authority, .inl hm⟩

/-- If the last extension with targets declares hosts, this host is one of them. If no extension
declares any, it does not matter which host this is, whatever else is declared. This leaves out the
case that an earlier extension declares hosts and the last one does not
(`mem_accepted_of_lastTargets`). -/
theorem targets_of_mem_accepted (h : v.accepted trust chain now = .ok accepted)
    (hm : m ∈ accepted) :
    (∀ x, Membership.lastTargets? m.certificate.extensions = some x →
      (∃ host, Targets.DeclaresHost x.value host) →
        ∃ localHost host, v.settings.localHost = some localHost ∧
          Targets.DeclaresHost x.value host ∧ Text.sameIgnoringCase localHost host = true) ∧
    ((∀ x ∈ m.certificate.extensions, x.id = Targets.extensionId →
      ∀ host, ¬Targets.DeclaresHost x.value host) →
        ∀ localHost, ∃ accepted', (v.withLocalHost localHost).accepted trust chain now =
          .ok accepted' ∧ m ∈ accepted') := by
  obtain ⟨hcarried, haccepts⟩ := (mem_accepted_iff h).1 hm
  have hread := hcarried.isReadFrom
  constructor
  · rintro x hx ⟨host, hhost⟩
    rcases haccepts.target with hnil | ⟨localHost, hlocal, target, htarget, hsame⟩
    · have hmem := (hread.mem_targets_iff hx).2 hhost
      rw [hnil] at hmem
      cases hmem
    · exact ⟨localHost, target, hlocal, (hread.mem_targets_iff hx).1 htarget, hsame⟩
  · intro hnone localHost
    exact exists_accepted hcarried (haccepts.withLocalHost (hread.targets_eq_nil hnone) localHost)

/-- Hosts that an earlier extension declares do not count. If the last extension with targets
declares none, it does not matter which host this is. -/
theorem mem_accepted_of_lastTargets (h : v.accepted trust chain now = .ok accepted)
    (hm : m ∈ accepted) {x : Extension}
    (hx : Membership.lastTargets? m.certificate.extensions = some x)
    (hnone : ∀ host, ¬Targets.DeclaresHost x.value host) (localHost : Option String) :
    ∃ accepted', (v.withLocalHost localHost).accepted trust chain now = .ok accepted' ∧
      m ∈ accepted' := by
  obtain ⟨hcarried, haccepts⟩ := (mem_accepted_iff h).1 hm
  have htargets : m.targets = [] := List.eq_nil_iff_forall_not_mem.2 fun host hhost =>
    hnone host ((hcarried.isReadFrom.mem_targets_iff hx).1 hhost)
  exact exists_accepted hcarried (haccepts.withLocalHost htargets localHost)

end Validator

namespace Sample

/-- The name of a host, or of a group of hosts. -/
def hostName : Der.AsciiText := ⟨"host.example.org", by decide⟩

/-- A target that is a host. -/
def targetHost : Der.Element := (GeneralName.dns hostName).toElement.explicit 0

/-- A target that is a group of hosts. -/
def targetGroup : Der.Element := (GeneralName.dns hostName).toElement.explicit 1

/-- The extension that declares one target. -/
def targetExtension (target : Der.Element) : Extension :=
  ⟨Targets.extensionId, true, (Der.Element.sequence [.sequence [target]]).encode⟩

/-- What the authority says of the end entity for one target. -/
def targetedBody (target : Der.Element) : AcBody :=
  { membershipBody with extensions := some [targetExtension target] }

theorem declares_targetExtension {target : Der.Element}
    (hlen : (Der.Element.encodeAll [.sequence [target]]).length ≤ Der.maxLength) :
    Targets.Declares (targetExtension target).value target := by
  have hinner : (Der.Element.encodeAll [target]).length ≤ Der.maxLength :=
    (Der.Element.length_content_le_of_mem (List.mem_singleton_self _)).trans hlen
  exact ⟨_, _, _, _, Der.Element.decode?_encode hlen, Der.Element.sequence?_sequence hlen,
    List.mem_singleton_self _, Der.Element.sequence?_sequence hinner, List.mem_singleton_self _⟩

theorem isHost_targetHost : Targets.IsHost targetHost hostName.text := by
  have hname : targetHost.explicit? = some (GeneralName.dns hostName).toElement := by
    decide +kernel
  have hread : GeneralName.ofElement? (GeneralName.dns hostName).toElement =
      some (.dns hostName) := by
    decide +kernel
  exact ⟨rfl, _, _, hname, .inl hread, rfl⟩

theorem not_isHost_targetGroup (host : String) : ¬Targets.IsHost targetGroup host := by
  rintro ⟨htag, -⟩
  have hne : targetGroup.tag ≠ .contextConstructed 0 := by decide
  exact hne htag

end Sample

namespace Validator

theorem targets_of_mem_accepted_sample :
    ∃ accepted m, (Sample.validator { localHost := some "HOST.example.org" }).accepted Sample.trust
        [Sample.carrying (Sample.attest (Sample.targetedBody Sample.targetHost))] Sample.moment =
          .ok accepted ∧
      m ∈ accepted ∧ ∃ host,
        Targets.DeclaresHost (Sample.targetExtension Sample.targetHost).value host ∧
        Text.sameIgnoringCase "HOST.example.org" host = true := by
  obtain ⟨accepted, m, haccepted, hm, hcertificate⟩ :=
    Sample.exists_accepted_attest { localHost := some "HOST.example.org" }
      (b := Sample.targetedBody Sample.targetHost) (by decide +kernel) (by decide +kernel)
      (by decide +kernel)
  have hlast : Membership.lastTargets? m.certificate.extensions =
      some (Sample.targetExtension Sample.targetHost) := by
    rw [hcertificate]
    rfl
  have hdeclares : Targets.Declares (Sample.targetExtension Sample.targetHost).value
      Sample.targetHost :=
    Sample.declares_targetExtension (by decide +kernel)
  obtain ⟨hrestricted, -⟩ := targets_of_mem_accepted haccepted hm
  obtain ⟨localHost, host, hlocal, hhost, hsame⟩ :=
    hrestricted _ hlast ⟨_, _, hdeclares, Sample.isHost_targetHost⟩
  cases hlocal
  exact ⟨accepted, m, haccepted, hm, host, hhost, hsame⟩

/-- A target that is a group of hosts does not keep an attribute certificate from being returned
where the host has no name. -/
theorem accepted_targetGroup :
    ∃ accepted m x, (Sample.validator {}).accepted Sample.trust
        [Sample.carrying (Sample.attest (Sample.targetedBody Sample.targetGroup))] Sample.moment =
          .ok accepted ∧
      m ∈ accepted ∧ (Sample.validator {}).settings.localHost = none ∧
      x ∈ m.certificate.extensions ∧ x.id = Targets.extensionId ∧
      Targets.Declares x.value Sample.targetGroup ∧
      ∀ host, ¬Targets.IsHost Sample.targetGroup host := by
  obtain ⟨accepted, m, haccepted, hm, hcertificate⟩ :=
    Sample.exists_accepted_attest {} (b := Sample.targetedBody Sample.targetGroup)
      (by decide +kernel) (by decide +kernel) (by decide +kernel)
  have hmem : Sample.targetExtension Sample.targetGroup ∈ m.certificate.extensions := by
    rw [hcertificate]
    exact List.mem_singleton_self _
  exact ⟨accepted, m, _, haccepted, hm, rfl, hmem, rfl,
    Sample.declares_targetExtension (by decide +kernel), Sample.not_isHost_targetGroup⟩

/-! ### The holder -/

/-- The names of the holder have to agree with the end entity exactly if there is a distinguished
name among them. If there is none, the membership is one of every subject to whom the same issuer
has given a certificate of that number. -/
theorem holderNames_of_mem_accepted (h : v.accepted trust chain now = .ok accepted)
    (hm : m ∈ accepted) {names : List GeneralName}
    (hnames : m.certificate.body.holder.names = some names) :
    ∃ validated c, v.chainValidator chain now = .accepted validated ∧
      chain[validated.endEntity]? = some c ∧
      ((∃ name, .directory name ∈ names ∧ name.agrees c.subject = true) ↔
        ∃ name, .directory name ∈ names) ∧
      ((∀ name, .directory name ∉ names) → ∀ c' : Certificate, c'.issuer = c.issuer →
        c'.body.serialNumber = c.body.serialNumber → m.IsHeldBy c') := by
  obtain ⟨hcarried, haccepts⟩ := (mem_accepted_iff h).1 hm
  obtain ⟨validated, c, hvalidated, hc, hheld⟩ := haccepts.holder
  have hsubject := hcarried.isReadFrom.subject
  rw [hnames, Option.bind_some] at hsubject
  refine ⟨validated, c, hvalidated, hc, ⟨?_, ?_⟩, ?_⟩
  · rintro ⟨name, hname, -⟩
    exact ⟨name, hname⟩
  · rintro ⟨name, hname⟩
    cases hfirst : GeneralName.firstDirectory? names with
    | none => exact absurd hname (GeneralName.firstDirectory?_eq_none_iff.1 hfirst name)
    | some first =>
      rw [hfirst] at hsubject
      exact ⟨first, GeneralName.mem_of_firstDirectory? hfirst, hheld.subject first hsubject.symm⟩
  · intro hnone c' hissuer hserial
    rw [GeneralName.firstDirectory?_eq_none_iff.2 hnone] at hsubject
    refine ⟨hissuer ▸ hheld.issuer, hserial ▸ hheld.serial, fun subject hsome => ?_⟩
    rw [← hsubject] at hsome
    cases hsome

end Validator

namespace Sample

/-- What the authority says of an end entity whose name is not that of the holder. -/
def renamedBody : AcBody :=
  { membershipBody with holder := { membershipBody.holder with names := some [.dns hostName] } }

end Sample

theorem Validator.holderNames_of_mem_accepted_sample :
    ∃ accepted m, (Sample.validator {}).accepted Sample.trust
        [Sample.carrying (Sample.attest Sample.renamedBody)] Sample.moment = .ok accepted ∧
      m ∈ accepted ∧ m.certificate.body.holder.names = some [.dns Sample.hostName] ∧
      ¬∃ name, .directory name ∈ [GeneralName.dns Sample.hostName] ∧
        name.agrees (Sample.carrying (Sample.attest Sample.renamedBody)).subject = true := by
  obtain ⟨accepted, m, haccepted, hm, hcertificate⟩ :=
    Sample.exists_accepted_attest {} (b := Sample.renamedBody) (by decide +kernel)
      (by decide +kernel) (by decide +kernel)
  have hnames : m.certificate.body.holder.names = some [.dns Sample.hostName] := by
    rw [hcertificate]
    rfl
  obtain ⟨validated, c, hvalidated, hc, hagrees, -⟩ :=
    holderNames_of_mem_accepted haccepted hm hnames
  rw [Sample.carrying, Sample.chainValidator_sign_carrierBody] at hvalidated
  cases hvalidated
  cases hc
  refine ⟨accepted, m, haccepted, hm, hnames, ?_⟩
  rw [hagrees]
  simp

/-! ### The algorithm of the signature -/

namespace Validator

theorem Accepts.withSignature (h : v.Accepts trust chain now m) {inner outer : AlgorithmIdentifier}
    {signature : Der.BitString} {bytes : Bytes}
    (hsigned : ∀ key, m.isSignedWith key = true →
      (m.withSignature inner outer signature bytes).isSignedWith key = true) :
    v.Accepts trust chain now (m.withSignature inner outer signature bytes) := by
  have hby : ∀ c, m.IsSignedBy c → (m.withSignature inner outer signature bytes).IsSignedBy c := by
    intro c hc
    obtain ⟨key, hkey, hc⟩ := Membership.isSignedBy_iff.1 hc
    exact Membership.isSignedBy_iff.2 ⟨key, hkey, hsigned key hc⟩
  obtain ⟨validated, c, hvalidated, hc, hheld⟩ := h.holder
  refine ⟨⟨validated, c, hvalidated, hc, hheld.issuer, hheld.serial, hheld.subject⟩, h.current, ?_,
    h.target⟩
  rcases h.authority with ⟨c, hc, hname, hvalid, hsigned⟩ | hlisted
  · exact .inl ⟨c, hc, hname, hvalid, hby c hsigned⟩
  · obtain ⟨leaf, hleaf, hname, hsigned⟩ := hlisted.leaf
    exact .inr ⟨hlisted.unknown, hlisted.listed, ⟨leaf, hleaf, hname, hby leaf hsigned⟩,
      hlisted.accepted⟩

/-- The signature is one of the body with the algorithm that is named beside it. The body may name
any other algorithm: what is signed like that by the same keys is returned as well. The parameters
beside the signature are not signed and do not matter at all. -/
theorem signatureAlgorithm_of_mem_accepted (h : v.accepted trust chain now = .ok accepted)
    (hm : m ∈ accepted) :
    (∃ c, (c ∈ trust.certificates ∨ m.authorityChain.head? = some c) ∧
      c.subject.agrees m.issuer = true ∧ m.IsSignedBy c) ∧
    (∀ inner outer signature bytes, signature.octets? = some bytes →
      Membership.ofCertificate (m.certificate.withSignature inner outer signature) =
        .ok (m.withSignature inner outer signature bytes) ∧
      ((∀ key, m.isSignedWith key = true →
          (m.withSignature inner outer signature bytes).isSignedWith key = true) →
        ∀ chain', v.SameEndEntity now chain chain' →
          (m.withSignature inner outer signature bytes).IsCarriedBy chain' →
            ∃ accepted', v.accepted trust chain' now = .ok accepted' ∧
              m.withSignature inner outer signature bytes ∈ accepted')) ∧
    ∀ parameters key,
      (m.withSignature m.certificate.body.signature
        ⟨m.certificate.signatureAlgorithm.algorithm, parameters⟩ m.certificate.signature
        m.signature).isSignedWith key = m.isSignedWith key := by
  obtain ⟨hcarried, haccepts⟩ := (mem_accepted_iff h).1 hm
  refine ⟨?_, ?_, fun _ _ => rfl⟩
  · rcases haccepts.authority with ⟨c, hc, hname, -, hsigned⟩ | hlisted
    · exact ⟨c, .inl hc, hname, hsigned⟩
    · obtain ⟨leaf, hleaf, hname, hsigned⟩ := hlisted.leaf
      exact ⟨leaf, .inr hleaf, hname, hsigned⟩
  · intro inner outer signature bytes hbytes
    have hread := hcarried.isReadFrom.withSignature inner outer hbytes
    refine ⟨Membership.ofCertificate_eq_ok_iff.2 hread, fun hsigned chain' hsame hcarried' => ?_⟩
    exact exists_accepted_of_sameEndEntity (haccepts.withSignature hsigned) hsame hcarried'

end Validator

namespace Sample

/-- The signed part names another algorithm than the one that it is signed with. -/
def mixedBody : AcBody := { membershipBody with signature := ⟨Algorithm.sha512WithRsa, none⟩ }

end Sample

theorem Validator.signatureAlgorithm_of_mem_accepted_sample :
    ∃ accepted m, (Sample.validator {}).accepted Sample.trust
        [Sample.carrying (Sample.attest Sample.mixedBody)] Sample.moment = .ok accepted ∧
      m ∈ accepted ∧ (∃ c, m.IsSignedBy c) ∧
      m.certificate.body.signature.algorithm = Algorithm.sha512WithRsa ∧
      m.certificate.signatureAlgorithm.algorithm = Algorithm.sha256WithRsa := by
  obtain ⟨accepted, m, haccepted, hm, hcertificate⟩ :=
    Sample.exists_accepted_attest {} (b := Sample.mixedBody) (by decide +kernel) (by decide +kernel)
      (by decide +kernel)
  obtain ⟨⟨c, -, -, hc⟩, -, -⟩ := signatureAlgorithm_of_mem_accepted haccepted hm
  refine ⟨accepted, m, haccepted, hm, ⟨c, hc⟩, ?_, ?_⟩
  · rw [hcertificate]
    rfl
  · rw [hcertificate]
    rfl

end GridAuthz
