import GridAuthz.Certificate
import GridAuthz.Proofs.Der.ReadBack
import GridAuthz.Proofs.Der.Times

/-!
# Certificates read back

An object identifier can be written although it is not read: reading asks for three bytes, and for
less in the fifth byte of an arc (`Oid.IsReadable`). Nothing else keeps a certificate from being read
back from its encoding (`Certificate.readsBackOn`).
-/

namespace GridAuthz

open Der

/-! ### Object identifiers -/

namespace Oid

/-- An identifier as it is read from an encoding. -/
def IsReadable (id : Oid) : Prop :=
  3 ≤ id.content.length ∧ (arcsOfContent? 0x10 id.content).isSome = true

instance : DecidablePred IsReadable := fun _ => inferInstanceAs (Decidable (_ ∧ _))

/-- All identifiers of a list can be read. -/
def AllReadable (ids : List Oid) : Prop := ∀ id ∈ ids, id.IsReadable

instance : DecidablePred AllReadable := fun ids => inferInstanceAs (Decidable (∀ id ∈ ids, _))

@[simp] theorem allReadable_nil : AllReadable [] := by simp [AllReadable]

@[simp] theorem allReadable_cons {id : Oid} {ids : List Oid} :
    AllReadable (id :: ids) ↔ id.IsReadable ∧ AllReadable ids := List.forall_mem_cons

@[simp] theorem allReadable_append {ids ids' : List Oid} :
    AllReadable (ids ++ ids') ↔ AllReadable ids ∧ AllReadable ids' := List.forall_mem_append

@[simp] theorem allReadable_flatMap {α : Type} {xs : List α} {f : α → List Oid} :
    AllReadable (xs.flatMap f) ↔ ∀ x ∈ xs, AllReadable (f x) := by
  simp only [AllReadable, List.mem_flatMap, forall_exists_index, and_imp]
  exact ⟨fun h x hx id hid => h id x hx hid, fun h id x hx hid => h x hx id hid⟩

theorem readsBackOn : ReadsBackOn ofElement? toElement IsReadable := by
  rintro ⟨content, hcontent⟩ - y
  by_cases h : 3 ≤ content.length ∧ (arcsOfContent? 0x10 content).isSome = true
  · simp [ofElement?, toElement, Element.contentOf?, ofContent?, hcontent, IsReadable, guard, h]
  · simp [ofElement?, toElement, Element.contentOf?, IsReadable, guard, h]

end Oid

/-! ### Parts of certificates -/

/-- The identifier of an algorithm; parameters are not looked into. -/
def AlgorithmIdentifier.oids (a : AlgorithmIdentifier) : List Oid := [a.algorithm]

theorem AlgorithmIdentifier.readsBackOn :
    ReadsBackOn ofElement? toElement fun a => Oid.AllReadable a.oids := by
  rintro ⟨algorithm, parameters⟩ hlen y
  have hfields := length_content_le_of_sequence hlen
  have halgorithm := Oid.readsBackOn algorithm (hfields _ (by simp))
  rw [ofElement?, toElement, Element.sequence?_sequence hlen]
  cases parameters <;> simp [oids, Option.bind_eq_some_iff, halgorithm]

/-- The identifier of an extension; its value is not looked into. -/
def Extension.oids (x : Extension) : List Oid := [x.id]

theorem Extension.readsBackOn :
    ReadsBackOn ofElement? toElement fun x => Oid.AllReadable x.oids := by
  rintro ⟨id, critical, value⟩ hlen y
  have hfields := length_content_le_of_sequence hlen
  have hid := Oid.readsBackOn id (hfields _ (by simp))
  have hvalue : (Element.ofOctets value).tag ≠ .boolean :=
    (by decide : Tag.octetString ≠ Tag.boolean)
  rw [ofElement?, toElement, Element.sequence?_sequence hlen]
  cases critical with
  | false => simp [oids, takeTagged?, takeOptional?, Option.bind_eq_some_iff, hid, hvalue]
  | true =>
    have hcritical : (Element.ofBool true).tag = .boolean := rfl
    simp [oids, takeTagged?, takeOptional?, Option.bind_eq_some_iff, hid, hcritical]

/-- The identifier of an attribute; its value is not looked into. -/
def NameAttribute.oids (a : NameAttribute) : List Oid := [a.kind]

theorem NameAttribute.readsBackOn :
    ReadsBackOn ofElement? toElement fun a => Oid.AllReadable a.oids := by
  rintro ⟨kind, value⟩ hlen y
  have hfields := length_content_le_of_sequence hlen
  have hkind := Oid.readsBackOn kind (hfields _ (by simp))
  rw [ofElement?, toElement, Element.sequence?_sequence hlen]
  simp [oids, Option.bind_eq_some_iff, hkind]

/-- The identifiers of the attributes of a name. -/
def Name.oids (n : Name) : List Oid := n.parts.flatMap fun part => part.members.flatMap (·.oids)

theorem Name.readsBackOn : ReadsBackOn ofElement? toElement fun n => Oid.AllReadable n.oids := by
  rintro ⟨parts⟩ hlen ⟨parts'⟩
  have hparts := NameAttribute.readsBackOn.setOf.sequenceOf parts hlen
  simpa [ofElement?, toElement, oids, Option.map_eq_some_iff] using hparts parts'

/-- The identifier of the algorithm of a key. -/
def PublicKeyInfo.oids (k : PublicKeyInfo) : List Oid := k.algorithm.oids

theorem PublicKeyInfo.readsBackOn :
    ReadsBackOn ofElement? toElement fun k => Oid.AllReadable k.oids := by
  rintro ⟨algorithm, key⟩ hlen y
  have hfields := length_content_le_of_sequence hlen
  have halgorithm := AlgorithmIdentifier.readsBackOn algorithm (hfields _ (by simp))
  rw [ofElement?, toElement, Element.sequence?_sequence hlen]
  simp [oids, Option.bind_eq_some_iff, halgorithm]

@[simp] theorem SerialNumber.ofElement?_toElement (s : SerialNumber) :
    ofElement? s.toElement = some s := by
  have hcontent := And.intro s.isInteger s.length_le
  simp [ofElement?, toElement, Element.contentOf?, ofContent?, hcontent]

theorem Validity.ofElement?_toElement {v : Validity}
    (hlen : v.toElement.content.length ≤ maxLength) : ofElement? v.toElement = some v := by
  rw [ofElement?, toElement, Element.sequence?_sequence hlen]
  simp

/-! ### Certificates -/

/-- The first version is not written, and any other is told from the next field by its number. -/
theorem CertificateVersion.takeExplicit?_append (v : CertificateVersion) {f : Element}
    (hf : f.tag.contextNumber? = none) (rest : List Element) :
    takeExplicit? 0 ofElement?
      ((if v = .v1 then [] else [Element.explicit 0 (.ofNat v.code)]) ++ f :: rest) =
        some (if v = .v1 then none else some v, f :: rest) := by
  have hexplicit : (Element.explicit 0 (.ofNat v.code)).explicit? = some (.ofNat v.code) :=
    Element.explicit?_explicit 0 (by cases v <;> decide)
  have hread : ofElement? (.ofNat v.code) = some v := by cases v <;> simp [ofElement?, code]
  by_cases hv : v = .v1
  · simp [hv, takeExplicit?, takeContext?, hf]
  · simp [hv, takeExplicit?, takeContext?, hexplicit, hread]

theorem uniqueIdReadsBackOn (n : Nat) :
    ReadsBackOn (fun e => (e.implicit? .bitString).bind BitString.ofElement?)
      (fun u : BitString => u.toElement.retag (.contextPrimitive n)) fun _ => True :=
  BitString.readsBackOn.implicit .bitString (.contextPrimitive n) (fun _ => rfl) (by simp; rfl)

namespace CertificateBody

/-- The identifiers in a body, but for those inside parameters, values and the key, in the order in
which they are read: the extensions come first. -/
def oids (b : CertificateBody) : List Oid :=
  b.extensions.toList.flatMap (fun xs => xs.flatMap (·.oids)) ++ b.signature.oids ++
    b.issuer.oids ++ b.subject.oids ++ b.publicKey.oids

theorem readsBackOn : ReadsBackOn ofElement? toElement fun b => Oid.AllReadable b.oids := by
  rintro ⟨version, serialNumber, signature, issuer, validity, subject, publicKey, issuerUniqueId,
    subjectUniqueId, extensions⟩ hlen y
  have hfields := length_content_le_of_sequence hlen
  simp only [List.append_assoc] at hfields
  have hsignature := AlgorithmIdentifier.readsBackOn signature (hfields _ (by simp))
  have hissuer := Name.readsBackOn issuer (hfields _ (by simp))
  have hvalidity := Validity.ofElement?_toElement (v := validity) (hfields _ (by simp))
  have hsubject := Name.readsBackOn subject (hfields _ (by simp))
  have hkey := PublicKeyInfo.readsBackOn publicKey (hfields _ (by simp))
  -- what follows the key is a list of optional fields, each with a higher number than the last
  have hoptional : ∀ f ∈ (issuerUniqueId.map fun u => u.toElement.retag (.contextPrimitive 1)).toList ++
      ((subjectUniqueId.map fun u => u.toElement.retag (.contextPrimitive 2)).toList ++
        (extensions.map fun xs => (Element.sequenceOf Extension.toElement xs).explicit 3).toList),
      f.content.length ≤ maxLength := fun f hf =>
    hfields f (List.mem_append_right _ (List.mem_append_right _ hf))
  have htakeIssuerId := (uniqueIdReadsBackOn 1).takeContext 1 (by simp) hoptional (by
    cases subjectUniqueId <;> cases extensions <;> simp)
  have htakeSubjectId := (uniqueIdReadsBackOn 2).takeContext 2 (by simp)
    (fun f hf => hoptional f (List.mem_append_right _ hf)) (by cases extensions <;> simp)
  have htakeExtensions := (Extension.readsBackOn.sequenceOf.explicit 3).takeContext_last 3
    (by simp) (fun f hf => hoptional f (List.mem_append_right _ (List.mem_append_right _ hf)))
  have hserial : serialNumber.toElement.tag.contextNumber? = none :=
    (by decide : Tag.integer.contextNumber? = none)
  have hdefault : (if version = .v1 then none else some version).getD .v1 = version := by
    cases version <;> rfl
  rw [ofElement?, toElement, Element.sequence?_sequence hlen]
  simp only [List.append_assoc, List.cons_append, List.nil_append, Option.bind_eq_bind,
    Option.bind_some, version.takeExplicit?_append hserial, hdefault, takeImplicit?]
  rw [takeExplicit?]
  simp [oids, Option.bind_eq_some_iff, htakeIssuerId, htakeSubjectId, htakeExtensions,
    hsignature, hissuer, hvalidity, hsubject, hkey, and_assoc]

end CertificateBody

namespace Certificate

/-- The identifiers of a certificate. -/
def oids (c : Certificate) : List Oid := c.body.oids ++ c.signatureAlgorithm.oids

theorem readsBackOn : ReadsBackOn ofElement? toElement fun c => Oid.AllReadable c.oids := by
  rintro ⟨body, signatureAlgorithm, signature⟩ hlen y
  have hfields := length_content_le_of_sequence hlen
  have hbody := CertificateBody.readsBackOn body (hfields _ (by simp))
  have halgorithm := AlgorithmIdentifier.readsBackOn signatureAlgorithm (hfields _ (by simp))
  rw [ofElement?, toElement, Element.sequence?_sequence hlen]
  simp [oids, Option.bind_eq_some_iff, hbody, halgorithm, and_assoc]

end Certificate

end GridAuthz
