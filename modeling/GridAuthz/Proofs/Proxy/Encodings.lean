import GridAuthz.Proofs.Der.Forms
import GridAuthz.Proofs.Der.PrimitiveForms
import GridAuthz.Proofs.Proxy.CertInfo

/-!
# The two encodings of proxy certificate information

What a proxy says about itself reads back from the encoding of the standard and from that of the
draft, if the language of its policy can be read. The standard has one form for it, and no byte string
means something different in the draft (`ProxyCertInfo.decode_encode_iff_isReadable`). The draft has
more than one: fields with the number 0 are passed over where the path length belongs
(`ProxyCertInfo.ofDraftDer?_iff_passesOver`).
-/

namespace GridAuthz

open Der

/-! ### Policies -/

namespace ProxyPolicy

/-- A policy has one form. -/
theorem toElement_of_ofElement? {e : Element} {p : ProxyPolicy} (h : ofElement? e = some p) :
    p.toElement = e := by
  simp only [ofElement?, Option.bind_eq_bind, Option.bind_eq_some_iff, Option.pure_def] at h
  obtain ⟨fields, hfields, h⟩ := h
  split at h
  case h_1 => simp at h
  case h_2 language rest =>
    simp only [Option.bind_eq_some_iff, Prod.exists, Option.ite_none_right_eq_some,
      List.isEmpty_iff, Option.some.injEq] at h
    obtain ⟨policy, _, hpolicy, rfl, id, hid, rfl⟩ := h
    obtain ⟨f, rfl, hrel⟩ := takeTagged?_eq_some hpolicy
    rw [List.append_nil] at hfields
    rw [toElement, Oid.toElement_of_ofElement? hid,
      map_eq_of_rel hrel fun _ _ h => Element.ofOctets_of_octets? h.2]
    exact (Element.eq_sequence_of_sequence? hfields).symm

end ProxyPolicy

namespace ProxyCertInfo

/-! ### The standard -/

theorem pathLengthElement_of_pathLength? {e : Element} {n : UInt32} (h : pathLength? e = some n) :
    pathLengthElement n = e := by
  obtain ⟨m, hm, rfl⟩ := Option.map_eq_some_iff.1 h
  obtain ⟨hlt, rfl⟩ := Element.ofNat_of_natBelow? hm
  rw [pathLengthElement, UInt32.toNat_ofNat', Nat.mod_eq_of_lt hlt]

/-- The standard has one form for each information. -/
theorem toElement_of_ofElement? {e : Element} {i : ProxyCertInfo} (h : ofElement? e = some i) :
    i.toElement = e := by
  simp only [ofElement?, Option.bind_eq_bind, Option.bind_eq_some_iff, Prod.exists,
    Option.pure_def] at h
  obtain ⟨fields, hfields, pathLength, rest, hpath, h⟩ := h
  split at h
  case h_1 policy =>
    simp only [Option.bind_eq_some_iff, Option.some.injEq] at h
    obtain ⟨p, hp, rfl⟩ := h
    obtain ⟨f, rfl, hrel⟩ := takeTagged?_eq_some hpath
    rw [toElement, ProxyPolicy.toElement_of_ofElement? hp,
      map_eq_of_rel hrel fun _ _ h => pathLengthElement_of_pathLength? h.2]
    exact (Element.eq_sequence_of_sequence? hfields).symm
  case h_2 => simp at h

/-! ### The draft -/

theorem exists_of_ofDraftElement? {e : Element} {i : ProxyCertInfo}
    (he : e.content.length ≤ maxLength) (h : ofDraftElement? e = some i) :
    i.policy.language.IsReadable ∧
      ∃ passedOver, (∀ f ∈ passedOver, IsPassedOver f) ∧ i.draftElementWith passedOver = e := by
  simp only [ofDraftElement?, Option.bind_eq_bind, Option.bind_eq_some_iff, Option.pure_def] at h
  obtain ⟨fields, hfields, h⟩ := h
  split at h
  case h_1 => simp at h
  case h_2 policy rest =>
    simp only [takeExplicit?, Option.bind_eq_some_iff, Prod.exists, Option.ite_none_right_eq_some,
      List.isEmpty_iff, Option.some.injEq] at h
    obtain ⟨pathLength, _, hpath, rfl, p, hp, rfl⟩ := h
    obtain ⟨passedOver, f, rfl, hlower, hrel, -⟩ := takeContext?_eq_some hpath
    have hpolicy := ProxyPolicy.toElement_of_ofElement? hp
    have hlength := Element.length_content_le_of_fieldsOf? he hfields policy (by simp)
    subst hpolicy
    refine ⟨((ProxyPolicy.readsBackOn p hlength p).1 hp).1, passedOver, fun g hg => ?_, ?_⟩
    · obtain ⟨k, hk, hnumber⟩ := hlower g hg
      rwa [show k = 0 by omega] at hnumber
    · have hwrite : pathLength.map (fun n => (pathLengthElement n).explicit 1) = f :=
        map_eq_of_rel hrel fun g n hg => by
          obtain ⟨d, hd, hn⟩ := Option.bind_eq_some_iff.1 hg.2
          rw [pathLengthElement_of_pathLength? hn, Element.eq_explicit_of_explicit? hg.1 hd]
      rw [draftElementWith, hwrite, Element.eq_sequence_of_sequence? hfields, List.append_nil]

/-! ### Byte strings -/

theorem toElement_encode_of_ofDer? {bytes : Bytes} {i : ProxyCertInfo}
    (h : ofDer? bytes = some i) : i.toElement.encode = bytes := by
  obtain ⟨e, he, hi⟩ := Option.bind_eq_some_iff.1 h
  rw [toElement_of_ofElement? hi, Element.encode_of_decode? he]

theorem ofDraftDer?_eq_some_iff {bytes : Bytes} {i : ProxyCertInfo} :
    ofDraftDer? bytes = some i ↔ i.policy.language.IsReadable ∧
      ∃ passedOver, (∀ f ∈ passedOver, IsPassedOver f) ∧
        (i.draftElementWith passedOver).content.length ≤ maxLength ∧
        (i.draftElementWith passedOver).encode = bytes := by
  rw [ofDraftDer?, Option.bind_eq_some_iff]
  constructor
  · rintro ⟨e, he, hi⟩
    have hlen := Element.length_content_le_of_decode? he
    obtain ⟨hlanguage, passedOver, hpassed, rfl⟩ := exists_of_ofDraftElement? hlen hi
    exact ⟨hlanguage, passedOver, hpassed, hlen, Element.encode_of_decode? he⟩
  · rintro ⟨hlanguage, passedOver, hpassed, hlen, rfl⟩
    exact ⟨_, Element.decode?_encode hlen,
      (ofDraftElement?_draftElementWith hpassed hlen i).2 ⟨hlanguage, rfl⟩⟩

/-- Where both dialects read something, it is the same policy without a path length. -/
theorem eq_of_ofDer?_of_ofDraftDer? {bytes : Bytes} {i j : ProxyCertInfo}
    (hi : ofDer? bytes = some i) (hj : ofDraftDer? bytes = some j) :
    i = j ∧ i.pathLength = none := by
  obtain ⟨-, passedOver, -, hlen, hbytes⟩ := ofDraftDer?_eq_some_iff.1 hj
  obtain ⟨e, he, hi⟩ := Option.bind_eq_some_iff.1 hi
  rw [← hbytes, Element.decode?_encode hlen, Option.some.injEq] at he
  subst he
  obtain ⟨pathLength, policy⟩ := i
  obtain ⟨pathLength', policy'⟩ := j
  have helement := toElement_of_ofElement? hi
  have hfields : _ = _ := (Element.encodeAll_inj hlen).1 (congrArg Element.content helement)
  cases pathLength with
  | some n =>
    -- A policy starts with the tag of a SEQUENCE, a path length with that of an INTEGER.
    have htag := congrArg Element.tag (List.cons.inj hfields).1
    exact absurd htag (show Tag.integer ≠ Tag.sequence by decide)
  | none =>
    obtain ⟨rfl, hpath⟩ := List.append_eq_nil_iff.1 (List.cons.inj hfields).2.symm
    cases pathLength' with
    | some n => simp at hpath
    | none => exact ⟨((readsBackOn ⟨none, policy'⟩ hlen _).1 hi).2.symm, rfl⟩

/-! ### Main statements -/

/-- What a proxy says about itself reads back from both encodings if the language of its policy can be
read, and otherwise from none of them. The standard has one form for it, and what both dialects read is
the same policy, without a path length. -/
theorem decode_encode_iff_isReadable :
    (∀ (i : ProxyCertInfo) (bytes : Bytes), i.toElement.encode? = some bytes →
      ∀ j, ofDer? bytes = some j ↔ i.policy.language.IsReadable ∧ i = j) ∧
    (∀ (i : ProxyCertInfo) (bytes : Bytes), i.toDraftElement.encode? = some bytes →
      ∀ j, ofDraftDer? bytes = some j ↔ i.policy.language.IsReadable ∧ i = j) ∧
    (∀ (bytes : Bytes) (i : ProxyCertInfo), ofDer? bytes = some i → i.toElement.encode = bytes) ∧
    ∀ (bytes : Bytes) (i j : ProxyCertInfo), ofDer? bytes = some i → ofDraftDer? bytes = some j →
      i.policy = j.policy ∧ i.pathLength = none ∧ j.pathLength = none := by
  refine ⟨fun i bytes h => readsBackOn.of_encode? h, fun i bytes h => draftReadsBackOn.of_encode? h,
    fun bytes i h => toElement_encode_of_ofDer? h, fun bytes i j hi hj => ?_⟩
  obtain ⟨rfl, hnone⟩ := eq_of_ofDer?_of_ofDraftDer? hi hj
  exact ⟨rfl, hnone, hnone⟩

end ProxyCertInfo

namespace Sample

/-- A limited proxy below which there may be two more. -/
def limitedInfo : ProxyCertInfo := ⟨some 2, ⟨ProxyPolicy.limited, none⟩⟩

/-- A proxy with a policy, and any number of proxies below it. -/
def policyInfo : ProxyCertInfo := ⟨none, ⟨ProxyPolicy.inheritAll, some [0x72, 0x77]⟩⟩

/-- A proxy whose policy has the language 2.5.29. -/
def shortLanguageInfo : ProxyCertInfo := ⟨none, ⟨⟨[0x55, 0x1D], rfl⟩, none⟩⟩

end Sample

namespace ProxyCertInfo

theorem decode_encode_iff_isReadable_sample :
    ofDer? Sample.limitedInfo.toElement.encode = some Sample.limitedInfo ∧
      ofDraftDer? Sample.limitedInfo.toDraftElement.encode = some Sample.limitedInfo ∧
      ofDer? Sample.policyInfo.toElement.encode = some Sample.policyInfo ∧
      ofDraftDer? Sample.policyInfo.toElement.encode = some Sample.policyInfo ∧
      Sample.policyInfo.pathLength = none := by
  obtain ⟨hread, hdraft, -, hboth⟩ := decode_encode_iff_isReadable
  have hpolicy := (hread Sample.policyInfo Sample.policyInfo.toElement.encode (by decide +kernel) _).2
    ⟨by decide +kernel, rfl⟩
  have hpolicy' := (hdraft Sample.policyInfo Sample.policyInfo.toElement.encode (by decide +kernel) _).2
    ⟨by decide +kernel, rfl⟩
  exact ⟨(hread _ _ (by decide +kernel) _).2 ⟨by decide +kernel, rfl⟩,
    (hdraft _ _ (by decide +kernel) _).2 ⟨by decide +kernel, rfl⟩, hpolicy, hpolicy',
    (hboth _ _ _ hpolicy hpolicy').2.1⟩

/-- An identifier of two bytes is written, but it is not read. -/
theorem decode_encode_shortLanguage :
    (Sample.shortLanguageInfo.toElement.encode? =
        some [0x30, 0x06, 0x30, 0x04, 0x06, 0x02, 0x55, 0x1D] ∧
      ofDer? [0x30, 0x06, 0x30, 0x04, 0x06, 0x02, 0x55, 0x1D] = none) ∧
    Sample.shortLanguageInfo.toDraftElement.encode? =
        some [0x30, 0x06, 0x30, 0x04, 0x06, 0x02, 0x55, 0x1D] ∧
      ofDraftDer? [0x30, 0x06, 0x30, 0x04, 0x06, 0x02, 0x55, 0x1D] = none := by
  decide +kernel

/-! ### What the draft passes over -/

theorem toDraftElement_eq_iff {i : ProxyCertInfo} {passedOver : List Element}
    (hlen : (i.draftElementWith passedOver).content.length ≤ maxLength) :
    i.toDraftElement = i.draftElementWith passedOver ↔ passedOver = [] := by
  rw [toDraftElement, draftElementWith, Element.sequence, Element.sequence, Element.mk.injEq,
    and_iff_right rfl, Element.encodeAll_inj hlen, List.cons.injEq, and_iff_right rfl,
    List.self_eq_append_left]

theorem isPassedOver_mem_iff {i : ProxyCertInfo} {passedOver : List Element}
    (hpassed : ∀ f ∈ passedOver, IsPassedOver f)
    (hlen : (i.draftElementWith passedOver).content.length ≤ maxLength) :
    (∀ fields ∈ (i.draftElementWith passedOver).sequence?, ∀ f ∈ fields, ¬IsPassedOver f) ↔
      passedOver = [] := by
  have hpolicy : ¬IsPassedOver i.policy.toElement :=
    (by decide : (Tag.sequence).contextNumber? ≠ some 0)
  have hpath : ∀ n, ¬IsPassedOver ((pathLengthElement n).explicit 1) := fun n =>
    (by decide : (Tag.contextConstructed 1).contextNumber? ≠ some 0)
  rw [draftElementWith, Element.sequence?_sequence hlen]
  simp only [Option.mem_def, Option.some.injEq, forall_eq', List.forall_mem_cons,
    List.forall_mem_append, hpolicy, not_false_eq_true, true_and]
  constructor
  · rintro ⟨hnone, -⟩
    exact List.eq_nil_iff_forall_not_mem.2 fun f hf => hnone f hf (hpassed f hf)
  · rintro rfl
    simp [hpath]

/-- The draft is read from an encoding with any number of fields with the number 0 between the policy
and the path length, and from no other. What is read is written back as it was exactly if there are none
of them. -/
theorem ofDraftDer?_iff_passesOver (bytes : Bytes) (i : ProxyCertInfo) :
    (ofDraftDer? bytes = some i ↔ i.policy.language.IsReadable ∧
      ∃ passedOver, (∀ f ∈ passedOver, IsPassedOver f) ∧
        (i.draftElementWith passedOver).content.length ≤ maxLength ∧
        (i.draftElementWith passedOver).encode = bytes) ∧
    (ofDraftDer? bytes = some i → (i.toDraftElement.encode = bytes ↔
      ∀ fields ∈ (Element.decode? bytes).bind Element.sequence?, ∀ f ∈ fields,
        ¬IsPassedOver f)) := by
  refine ⟨ofDraftDer?_eq_some_iff, fun h => ?_⟩
  obtain ⟨-, passedOver, hpassed, hlen, rfl⟩ := ofDraftDer?_eq_some_iff.1 h
  rw [Element.encode_inj, toDraftElement_eq_iff hlen, Element.decode?_encode hlen,
    Option.bind_some, isPassedOver_mem_iff hpassed hlen]

/-- A NULL under the number 0 is passed over, and it is not written back. -/
theorem ofDraftDer?_iff_passesOver_sample :
    ofDraftDer? (Sample.limitedInfo.draftElementWith [Element.explicit 0 ⟨.null, []⟩]).encode =
        some Sample.limitedInfo ∧
      Sample.limitedInfo.toDraftElement.encode ≠
        (Sample.limitedInfo.draftElementWith [Element.explicit 0 ⟨.null, []⟩]).encode := by
  obtain ⟨hread, hwrite⟩ := ofDraftDer?_iff_passesOver
    (Sample.limitedInfo.draftElementWith [Element.explicit 0 ⟨.null, []⟩]).encode Sample.limitedInfo
  have hlimited := hread.2 ⟨by decide +kernel, [Element.explicit 0 ⟨.null, []⟩], by decide +kernel,
    by decide +kernel, rfl⟩
  refine ⟨hlimited, fun hsame => ?_⟩
  exact absurd ((hwrite hlimited).1 hsame) (by decide +kernel)

end ProxyCertInfo

end GridAuthz
