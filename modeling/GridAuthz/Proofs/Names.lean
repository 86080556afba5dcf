import GridAuthz.Proofs.Der.Primitives
import GridAuthz.Proxy.Recognition

/-!
# Names with one more common name

A name agrees with itself when all its values are texts (`Name.agrees_self_iff`), and then the name
of a proxy, which has one more common name, extends it (`Proxy.extendsByCommonName_extend`).
-/

namespace GridAuthz

namespace Name

/-- All values of a name are directory strings. -/
def HasOnlyTexts (n : Name) : Prop := ∀ a ∈ n.attributes, a.text?.isSome = true

instance (n : Name) : Decidable n.HasOnlyTexts := inferInstanceAs (Decidable (∀ a ∈ n.attributes, _))

theorem allAgree_self_iff {α : Type} {agrees : α → α → Bool} {as : List α} :
    allAgree agrees as as = true ↔ ∀ a ∈ as, agrees a a = true := by
  induction as with
  | nil => simp [allAgree]
  | cons a as ih => rw [allAgree, Bool.and_eq_true, ih, List.forall_mem_cons]

/-- Only values that are texts can agree, and each of them agrees with itself. -/
theorem agrees_self_iff {n : Name} : n.agrees n = true ↔ n.HasOnlyTexts := by
  have hvalue : ∀ a : NameAttribute, a.agrees a = true ↔ a.text?.isSome = true := by
    intro a
    simp only [NameAttribute.agrees, NameAttribute.valuesMatch, NameAttribute.text?, beq_self_eq_true,
      Bool.true_and]
    cases a.value.directoryText? <;> simp
  simp only [agrees, partsAgree, allAgree_self_iff, hvalue, HasOnlyTexts, attributes,
    List.mem_flatMap]
  grind

@[simp] theorem attributes_extend (n : Name) (a : NameAttribute) :
    (n.extend a).attributes = n.attributes ++ [a] := by
  simp [attributes, extend, Der.SetOf.singleton]

theorem HasOnlyTexts.extend {n : Name} (h : n.HasOnlyTexts) (kind : Oid) (text : String) :
    (n.extend ⟨kind, .ofUtf8 text⟩).HasOnlyTexts := by
  intro a ha
  rw [attributes_extend, List.mem_append, List.mem_singleton] at ha
  rcases ha with ha | rfl
  · exact h a ha
  · simp [NameAttribute.text?]

end Name

namespace Proxy

@[simp] theorem commonName?_ofUtf8 (text : String) :
    commonName? ⟨AttributeType.commonName, .ofUtf8 text⟩ = some text := by
  simp [commonName?, Der.Element.ofUtf8]

@[simp] theorem lastCommonName?_extend (n : Name) (text : String) :
    lastCommonName? (n.extend ⟨AttributeType.commonName, .ofUtf8 text⟩) = some text := by
  simp [lastCommonName?, Name.extend, Der.SetOf.singleton]

theorem extendsByCommonName_extend {n : Name} (h : n.HasOnlyTexts) (text : String) :
    extendsByCommonName (n.extend ⟨AttributeType.commonName, .ofUtf8 text⟩) n = true := by
  have hlast : (n.extend ⟨AttributeType.commonName, .ofUtf8 text⟩).parts.getLast? =
      some (.singleton ⟨AttributeType.commonName, .ofUtf8 text⟩) := by
    simp [Name.extend]
  have hrest : (n.extend ⟨AttributeType.commonName, .ofUtf8 text⟩).parts.dropLast = n.parts := by
    simp [Name.extend]
  rw [extendsByCommonName, hlast, hrest]
  simp [Der.SetOf.singleton, Name.agrees_self_iff.2 h]

end Proxy

end GridAuthz
