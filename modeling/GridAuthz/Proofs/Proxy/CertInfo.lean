import GridAuthz.Proofs.Certificate.ReadBack
import GridAuthz.Proxy.CertInfo

/-!
# Proxy certificate information reads back

What a proxy says about itself reads back from the encoding of the standard
(`ProxyCertInfo.readsBackOn`) and from that of the draft (`ProxyCertInfo.draftReadsBackOn`), if the
language of its policy can be read. From that of the draft it does so even with fields with the number 0
between the policy and the path length (`ProxyCertInfo.ofDraftElement?_draftElementWith`).
-/

namespace GridAuthz

open Der

theorem ProxyPolicy.readsBackOn : ReadsBackOn ofElement? toElement fun p =>
    p.language.IsReadable := by
  rintro ⟨language, policy⟩ hlen y
  have hfields := length_content_le_of_sequence hlen
  have hlanguage := Oid.readsBackOn language (hfields _ (by simp))
  have hoctets : ReadsBackOn Element.octets? Element.ofOctets fun _ => True := by
    simp [ReadsBackOn]
  have hpolicy := hoctets.takeTagged_last .octetString (fun _ => rfl) (o := policy)
    (fun f hf => hfields f (List.mem_cons_of_mem _ hf))
  rw [ofElement?, toElement, Element.sequence?_sequence hlen]
  simp [Option.bind_eq_some_iff, hpolicy, hlanguage]

namespace ProxyCertInfo

/-! ### The standard -/

theorem pathLengthReadsBackOn : ReadsBackOn pathLength? pathLengthElement fun _ => True := by
  intro n _ y
  rw [pathLength?, pathLengthElement, Element.natBelow?_ofNat n.toNat_lt]
  simp

theorem readsBackOn : ReadsBackOn ofElement? toElement fun i => i.policy.language.IsReadable := by
  rintro ⟨pathLength, policy⟩ hlen y
  have hfields := length_content_le_of_sequence hlen
  have hpath := pathLengthReadsBackOn.takeTagged .integer (fun _ => rfl) hfields
    (by simp [ProxyPolicy.toElement, Element.sequence]; decide)
  have hpolicy := ProxyPolicy.readsBackOn policy (hfields _ (by simp))
  rw [ofElement?, toElement, Element.sequence?_sequence hlen]
  simp [Option.bind_eq_some_iff, hpath, hpolicy]

/-! ### The draft -/

theorem takeContext?_append_of_lt {α : Type} (decode? : Element → Option α) {n : Nat}
    {passedOver : List Element} (rest : List Element)
    (h : ∀ f ∈ passedOver, ∃ k < n, f.tag.contextNumber? = some k) :
    takeContext? n decode? (passedOver ++ rest) = takeContext? n decode? rest := by
  induction passedOver with
  | nil => rfl
  | cons f passedOver ih =>
    obtain ⟨⟨k, hk, hnumber⟩, hrest⟩ := List.forall_mem_cons.1 h
    rw [List.cons_append, takeContext?, hnumber]
    simp only [show ¬n < k by omega, show k ≠ n by omega, if_false]
    exact ih hrest

/-- The element that the draft asks for, with other fields between the policy and the path length. -/
def draftElementWith (passedOver : List Element) (i : ProxyCertInfo) : Element :=
  .sequence (i.policy.toElement ::
    (passedOver ++ (i.pathLength.map fun n => (pathLengthElement n).explicit 1).toList))

/-- The fields that are passed over are those with the number 0. -/
def IsPassedOver (f : Element) : Prop := f.tag.contextNumber? = some 0

instance : DecidablePred IsPassedOver := fun _ => inferInstanceAs (Decidable (_ = _))

theorem ofDraftElement?_draftElementWith {passedOver : List Element}
    (hpassed : ∀ f ∈ passedOver, IsPassedOver f) {i : ProxyCertInfo}
    (hlen : (i.draftElementWith passedOver).content.length ≤ maxLength) (j : ProxyCertInfo) :
    ofDraftElement? (i.draftElementWith passedOver) = some j ↔
      i.policy.language.IsReadable ∧ i = j := by
  obtain ⟨pathLength, policy⟩ := i
  have hfields := length_content_le_of_sequence hlen
  have hpolicy := ProxyPolicy.readsBackOn policy (hfields _ (by simp))
  have hskip := takeContext?_append_of_lt (n := 1) (fun e => e.explicit?.bind pathLength?)
    (pathLength.map fun n => (pathLengthElement n).explicit 1).toList
    fun f hf => ⟨0, by decide, hpassed f hf⟩
  have hpath := (pathLengthReadsBackOn.explicit 1).takeContext_last 1 (fun _ => by simp)
    (o := pathLength)
    (fun f hf => hfields f (List.mem_cons_of_mem _ (List.mem_append_right _ hf)))
  rw [ofDraftElement?, draftElementWith, Element.sequence?_sequence hlen]
  simp [takeExplicit?, hskip, Option.bind_eq_some_iff, hpath, hpolicy]

theorem draftReadsBackOn :
    ReadsBackOn ofDraftElement? toDraftElement fun i => i.policy.language.IsReadable :=
  fun _ hlen => ofDraftElement?_draftElementWith (List.forall_mem_nil _) hlen

end ProxyCertInfo

end GridAuthz
