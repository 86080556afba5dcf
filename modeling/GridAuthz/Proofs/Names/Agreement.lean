import Mathlib.Data.List.Forall2
import GridAuthz.Name

/-!
# Agreement of names

Names that agree are alike: agreement is symmetric and transitive (`Name.agrees_symm`,
`Name.agrees_trans`). It is not reflexive, but a name that agrees with any other one agrees with
itself too (`Name.agrees_self_of_agrees`).
-/

namespace GridAuthz

/-! ### Attributes -/

theorem NameAttribute.agrees_iff {a b : NameAttribute} :
    a.agrees b = true ↔ a.kind = b.kind ∧ ∃ s t, a.text? = some s ∧ b.text? = some t ∧
      Text.prepare s = Text.prepare t := by
  rw [agrees, valuesMatch, text?, text?]
  cases a.value.directoryText? <;> cases b.value.directoryText? <;> simp

theorem NameAttribute.agrees_symm {a b : NameAttribute} (h : a.agrees b = true) :
    b.agrees a = true := by
  obtain ⟨hkind, s, t, hs, ht, heq⟩ := agrees_iff.1 h
  exact agrees_iff.2 ⟨hkind.symm, t, s, ht, hs, heq.symm⟩

theorem NameAttribute.agrees_trans {a b c : NameAttribute} (h : a.agrees b = true)
    (h' : b.agrees c = true) : a.agrees c = true := by
  obtain ⟨hkind, s, t, hs, ht, heq⟩ := agrees_iff.1 h
  obtain ⟨hkind', t', u, ht', hu, heq'⟩ := agrees_iff.1 h'
  obtain rfl : t = t' := Option.some.inj (ht.symm.trans ht')
  exact agrees_iff.2 ⟨hkind.trans hkind', s, u, hs, hu, heq.trans heq'⟩

namespace Name

/-! ### Lists -/

section Lists

variable {α : Type} {agrees : α → α → Bool} {as bs cs : List α}

theorem allAgree_iff :
    allAgree agrees as bs = true ↔ List.Forall₂ (fun a b => agrees a b = true) as bs := by
  induction as generalizing bs with
  | nil => cases bs <;> simp [allAgree]
  | cons a as ih => cases bs <;> simp [allAgree, ih]

theorem allAgree_symm (hsymm : ∀ a b, agrees a b = true → agrees b a = true)
    (h : allAgree agrees as bs = true) : allAgree agrees bs as = true := by
  rw [allAgree_iff] at h ⊢
  exact (h.imp hsymm).flip

theorem allAgree_trans
    (htrans : ∀ a b c, agrees a b = true → agrees b c = true → agrees a c = true)
    (h : allAgree agrees as bs = true) (h' : allAgree agrees bs cs = true) :
    allAgree agrees as cs = true := by
  rw [allAgree_iff] at h h' ⊢
  induction h generalizing cs with
  | nil => exact h'
  | cons hab _ ih =>
    cases h' with
    | cons hbc hrest => exact .cons (htrans _ _ _ hab hbc) (ih hrest)

end Lists

/-! ### Names -/

variable {n m k : Name}

theorem partsAgree_symm {p q : RelativeName} (h : partsAgree p q = true) :
    partsAgree q p = true := allAgree_symm (fun _ _ => NameAttribute.agrees_symm) h

theorem partsAgree_trans {p q r : RelativeName} (h : partsAgree p q = true)
    (h' : partsAgree q r = true) : partsAgree p r = true :=
  allAgree_trans (fun _ _ _ => NameAttribute.agrees_trans) h h'

theorem agrees_symm (h : n.agrees m = true) : m.agrees n = true :=
  allAgree_symm (fun _ _ => partsAgree_symm) h

theorem agrees_trans (h : n.agrees m = true) (h' : m.agrees k = true) : n.agrees k = true :=
  allAgree_trans (fun _ _ _ => partsAgree_trans) h h'

theorem agrees_self_of_agrees (h : n.agrees m = true) : m.agrees m = true :=
  agrees_trans (agrees_symm h) h

theorem agrees_iff : n.agrees m = true ↔
    List.Forall₂ (fun p q => partsAgree p q = true) n.parts m.parts := allAgree_iff

theorem length_eq_of_agrees (h : n.agrees m = true) : n.parts.length = m.parts.length :=
  (agrees_iff.1 h).length_eq

theorem agrees_take (h : n.agrees m = true) (count : Nat) :
    Name.agrees ⟨n.parts.take count⟩ ⟨m.parts.take count⟩ = true :=
  agrees_iff.2 (List.forall₂_take count (agrees_iff.1 h))

end Name

end GridAuthz
