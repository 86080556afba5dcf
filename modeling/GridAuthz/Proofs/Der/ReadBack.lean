import GridAuthz.Der.SetOf
import GridAuthz.Proofs.Der.Primitives

/-!
# What is read back as it was written

For a writer and a reader of values, `ReadsBackOn` says which values are read back from what is
written of them; of the others nothing is read at all, so that no value is ever taken for another.
It is carried over to sequences, sets, tagged values and optional fields, so that the type of a value
decides how it is shown. The length of an encoding is bounded, and with it those of all elements
inside.
-/

namespace GridAuthz.Der

variable {α : Type} {decode? : Element → Option α} {encode : α → Element} {P : α → Prop}

/-- Of a value `x` nothing but `x` itself is read back, and it is if it satisfies `P`. -/
def ReadsBackOn (decode? : Element → Option α) (encode : α → Element) (P : α → Prop) : Prop :=
  ∀ x, (encode x).content.length ≤ maxLength → ∀ y, decode? (encode x) = some y ↔ P x ∧ x = y

/-- An encoding that is not too long is decoded as the value is read. -/
theorem ReadsBackOn.of_encode? (h : ReadsBackOn decode? encode P) {x : α} {bytes : Bytes}
    (hbytes : (encode x).encode? = some bytes) (y : α) :
    (Element.decode? bytes).bind decode? = some y ↔ P x ∧ x = y := by
  simp only [Element.encode?, Option.ite_none_right_eq_some, Option.some.injEq] at hbytes
  obtain ⟨hlen, rfl⟩ := hbytes
  have hcontent := (Element.length_content_le _).trans hlen
  rw [Element.decode?_encode hcontent, Option.bind_some, h x hcontent]

theorem BitString.readsBackOn : ReadsBackOn ofElement? toElement fun _ => True := by
  simp [ReadsBackOn]

/-! ### Sequences and sets -/

theorem length_content_le_of_sequence {fields : List Element}
    (h : (Element.sequence fields).content.length ≤ maxLength) :
    ∀ f ∈ fields, f.content.length ≤ maxLength :=
  fun _ hf => (Element.length_content_le_of_mem hf).trans h

theorem length_content_le_of_retag {tag : Tag} {fields : List Element}
    (h : ((Element.sequence fields).retag tag).content.length ≤ maxLength) :
    ∀ f ∈ fields, f.content.length ≤ maxLength :=
  length_content_le_of_sequence h

theorem ReadsBackOn.mapM (h : ReadsBackOn decode? encode P) {xs : List α}
    (hlen : ∀ f ∈ xs.map encode, f.content.length ≤ maxLength) (ys : List α) :
    (xs.map encode).mapM decode? = some ys ↔ (∀ x ∈ xs, P x) ∧ xs = ys := by
  induction xs generalizing ys with
  | nil => simp
  | cons x xs ih =>
    rw [List.map_cons, List.forall_mem_cons] at hlen
    simp only [List.map_cons, List.mapM_cons, Option.bind_eq_bind, Option.pure_def,
      Option.bind_eq_some_iff, h x hlen.1, ih hlen.2, List.forall_mem_cons]
    constructor
    · rintro ⟨_, ⟨hx, rfl⟩, _, ⟨hxs, rfl⟩, heq⟩
      exact ⟨⟨hx, hxs⟩, Option.some.inj heq⟩
    · rintro ⟨⟨hx, hxs⟩, rfl⟩
      exact ⟨x, ⟨hx, rfl⟩, xs, ⟨hxs, rfl⟩, rfl⟩

theorem ReadsBackOn.sequenceOf (h : ReadsBackOn decode? encode P) :
    ReadsBackOn (Element.sequenceOf? decode?) (Element.sequenceOf encode)
      fun xs => ∀ x ∈ xs, P x := by
  intro xs hlen ys
  rw [Element.sequenceOf?, Element.sequenceOf, Element.sequence?_sequence hlen, Option.bind_some]
  exact h.mapM (length_content_le_of_sequence hlen) ys

theorem SetOf.ofList?_members {encoding : α → Bytes} (s : SetOf α encoding) :
    ofList? s.members = some s := by
  have hsorted : s.members.mergeSort (fun a b => bytesLE (encoding a) (encoding b)) = s.members :=
    List.mergeSort_of_pairwise (s.ordered.imp fun hlt => decide_eq_true (List.le_of_lt hlt))
  simp only [ofList?, hsorted, s.ordered, dif_pos]

theorem ReadsBackOn.setOf (h : ReadsBackOn decode? encode P) :
    ReadsBackOn (SetOf.ofElement? decode?)
      (SetOf.toElement : SetOf α (fun a => (encode a).encode) → Element)
      fun s => ∀ a ∈ s.members, P a := by
  intro s hlen t
  have hmembers : ∀ f ∈ s.members.map encode, f.content.length ≤ maxLength :=
    fun _ hf => (Element.length_content_le_of_mem hf).trans hlen
  have hfields : s.toElement.fieldsOf? .set = some (s.members.map encode) := by
    rw [Element.fieldsOf?, Element.contentOf?, SetOf.toElement, if_pos rfl, Option.bind_some]
    exact Element.readAll?_encodeAll hmembers
  simp only [SetOf.ofElement?, hfields, Option.bind_eq_bind, Option.bind_some,
    Option.bind_eq_some_iff, h.mapM hmembers]
  constructor
  · rintro ⟨_, ⟨hP, rfl⟩, ht⟩
    rw [SetOf.ofList?_members] at ht
    exact ⟨hP, Option.some.inj ht⟩
  · rintro ⟨hP, rfl⟩
    exact ⟨s.members, ⟨hP, rfl⟩, s.ofList?_members⟩

/-! ### Tags -/

namespace Tag

theorem contextPrimitive_mod (n : Nat) : contextPrimitive (n % 31) = contextPrimitive n := by
  simp [contextPrimitive]

theorem contextConstructed_mod (n : Nat) : contextConstructed (n % 31) = contextConstructed n := by
  simp [contextConstructed]

@[simp] theorem contextNumber?_contextPrimitive (n : Nat) :
    (contextPrimitive n).contextNumber? = some (n % 31) := by
  have small : ∀ k : Fin 31, (contextPrimitive k).contextNumber? = some k.val := by decide
  rw [← contextPrimitive_mod]
  exact small ⟨n % 31, Nat.mod_lt n (by decide)⟩

@[simp] theorem contextNumber?_contextConstructed (n : Nat) :
    (contextConstructed n).contextNumber? = some (n % 31) := by
  have small : ∀ k : Fin 31, (contextConstructed k).contextNumber? = some k.val := by decide
  rw [← contextConstructed_mod]
  exact small ⟨n % 31, Nat.mod_lt n (by decide)⟩

@[simp] theorem isConstructed_contextPrimitive (n : Nat) :
    (contextPrimitive n).isConstructed = false := by
  have small : ∀ k : Fin 31, (contextPrimitive k).isConstructed = false := by decide
  rw [← contextPrimitive_mod]
  exact small ⟨n % 31, Nat.mod_lt n (by decide)⟩

end Tag

@[simp] theorem Element.tag_retag (tag : Tag) (e : Element) : (e.retag tag).tag = tag := rfl

@[simp] theorem Element.tag_explicit (n : Nat) (e : Element) :
    (e.explicit n).tag = .contextConstructed n := rfl

@[simp] theorem Element.tag_sequenceOf (values : List α) :
    (Element.sequenceOf encode values).tag = .sequence := rfl

/-- An explicit tag is taken off again. -/
theorem ReadsBackOn.explicit (h : ReadsBackOn decode? encode P) (n : Nat) :
    ReadsBackOn (fun e => e.explicit?.bind decode?) (fun x => (encode x).explicit n) P := by
  intro x hlen y
  have hinner : (encode x).content.length ≤ maxLength := (Element.length_content_le _).trans hlen
  simp only [Element.explicit?_explicit n hinner, Option.bind_some, h x hinner]

/-- So is an implicit one, if the type is constructed as the tag is. -/
theorem ReadsBackOn.implicit (h : ReadsBackOn decode? encode P) (tag outer : Tag)
    (htag : ∀ x, (encode x).tag = tag) (houter : outer.isConstructed = tag.isConstructed) :
    ReadsBackOn (fun e => (e.implicit? tag).bind decode?) (fun x => (encode x).retag outer) P := by
  intro x hlen y
  have hinner : ((encode x).retag outer).implicit? tag = some (encode x) := by
    have hconstructed : ((encode x).retag outer).tag.isConstructed = tag.isConstructed := houter
    rw [Element.implicit?, if_pos hconstructed, ← htag x]
    rfl
  simp only [hinner, Option.bind_some]
  exact h x hlen y

theorem ReadsBackOn.implicitSequence (h : ReadsBackOn decode? encode P) (n : Nat)
    (htag : ∀ x, (encode x).tag = .sequence) :
    ReadsBackOn (fun e => (e.implicit? .sequence).bind decode?)
      (fun x => (encode x).retag (.contextConstructed n)) P :=
  h.implicit .sequence (.contextConstructed n) htag (Tag.isConstructed_contextConstructed n)

/-! ### Optional fields -/

/-- A field that is there, with what follows it. -/
theorem ReadsBackOn.map_pair_eq_some_iff (h : ReadsBackOn decode? encode P) {x : α}
    (hlen : (encode x).content.length ≤ maxLength) (rest : List Element) (o' : Option α)
    (rest' : List Element) :
    (decode? (encode x)).map (fun a => (some a, rest)) = some (o', rest') ↔
      (∀ a ∈ some x, P a) ∧ some x = o' ∧ rest = rest' := by
  simp only [Option.map_eq_some_iff, h x hlen]
  constructor
  · rintro ⟨_, ⟨hP, rfl⟩, heq⟩
    cases heq
    exact ⟨by simpa using hP, rfl, rfl⟩
  · rintro ⟨hP, rfl, rfl⟩
    exact ⟨x, ⟨hP x rfl, rfl⟩, rfl⟩

/-- An optional field that its tag tells from what follows. -/
theorem ReadsBackOn.takeTagged (h : ReadsBackOn decode? encode P) (tag : Tag)
    (htag : ∀ x, (encode x).tag = tag) {o : Option α} {rest : List Element}
    (hlen : ∀ f ∈ (o.map encode).toList ++ rest, f.content.length ≤ maxLength)
    (hrest : ∀ f ∈ rest.head?, f.tag ≠ tag) (o' : Option α) (rest' : List Element) :
    takeTagged? tag decode? ((o.map encode).toList ++ rest) = some (o', rest') ↔
      (∀ x ∈ o, P x) ∧ o = o' ∧ rest = rest' := by
  cases o with
  | none =>
    cases rest with
    | nil => simp [takeTagged?, takeOptional?]
    | cons f rest =>
      have hf : f.tag ≠ tag := hrest f rfl
      simp [takeTagged?, takeOptional?, hf]
  | some x =>
    simp only [Option.map_some, Option.toList_some, List.cons_append, List.nil_append,
      List.forall_mem_cons] at hlen
    simp only [Option.map_some, Option.toList_some, List.cons_append, List.nil_append,
      takeTagged?, takeOptional?, htag, decide_true, if_true]
    exact h.map_pair_eq_some_iff hlen.1 rest o' rest'

theorem ReadsBackOn.takeTagged_last (h : ReadsBackOn decode? encode P) (tag : Tag)
    (htag : ∀ x, (encode x).tag = tag) {o : Option α}
    (hlen : ∀ f ∈ (o.map encode).toList, f.content.length ≤ maxLength) (o' : Option α)
    (rest : List Element) :
    takeTagged? tag decode? (o.map encode).toList = some (o', rest) ↔
      (∀ x ∈ o, P x) ∧ o = o' ∧ [] = rest := by
  have htake : takeTagged? tag decode? ((o.map encode).toList ++ []) = some (o', rest) ↔ _ :=
    h.takeTagged tag htag (by simpa using hlen) (by simp) o' rest
  rwa [List.append_nil] at htake

/-- An optional field that its number tells from what follows. -/
theorem ReadsBackOn.takeContext (h : ReadsBackOn decode? encode P) (n : Nat)
    (hnumber : ∀ x, (encode x).tag.contextNumber? = some n) {o : Option α} {rest : List Element}
    (hlen : ∀ f ∈ (o.map encode).toList ++ rest, f.content.length ≤ maxLength)
    (hrest : ∀ f ∈ rest.head?, ∀ k, f.tag.contextNumber? = some k → n < k)
    (o' : Option α) (rest' : List Element) :
    takeContext? n decode? ((o.map encode).toList ++ rest) = some (o', rest') ↔
      (∀ x ∈ o, P x) ∧ o = o' ∧ rest = rest' := by
  cases o with
  | none =>
    cases rest with
    | nil => simp [takeContext?]
    | cons f rest =>
      have hf : ∀ k, f.tag.contextNumber? = some k → n < k := hrest f rfl
      rw [Option.map_none, Option.toList_none, List.nil_append, takeContext?]
      split
      · simp
      · next k hk => simp [hf k hk]
  | some x =>
    simp only [Option.map_some, Option.toList_some, List.cons_append, List.nil_append,
      List.forall_mem_cons] at hlen
    simp only [Option.map_some, Option.toList_some, List.cons_append, List.nil_append,
      takeContext?, hnumber, Nat.lt_irrefl, if_false, if_true]
    exact h.map_pair_eq_some_iff hlen.1 rest o' rest'

theorem ReadsBackOn.takeContext_last (h : ReadsBackOn decode? encode P) (n : Nat)
    (hnumber : ∀ x, (encode x).tag.contextNumber? = some n) {o : Option α}
    (hlen : ∀ f ∈ (o.map encode).toList, f.content.length ≤ maxLength) (o' : Option α)
    (rest : List Element) :
    takeContext? n decode? (o.map encode).toList = some (o', rest) ↔
      (∀ x ∈ o, P x) ∧ o = o' ∧ [] = rest := by
  have htake : takeContext? n decode? ((o.map encode).toList ++ []) = some (o', rest) ↔ _ :=
    h.takeContext n hnumber (by simpa using hlen) (by simp) o' rest
  rwa [List.append_nil] at htake

end GridAuthz.Der
