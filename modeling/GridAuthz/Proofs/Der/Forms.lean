import GridAuthz.Der.SetOf
import GridAuthz.Proofs.Der.Elements

/-!
# What is written back as it was read

Elements are written in the form in which they are read (`Element.encode_of_decode?`), but not all
values are: a set is read in any order, and optional fields may be passed over. For a reader and a
writer of values, `WritesBackOn` says on which elements the two are inverse to one another. It is
carried over to sequences, optional fields and tagged values, so that the type of a value decides
how it is shown.
-/

namespace GridAuthz.Der

/-! ### Tags and lengths -/

theorem Tag.octet_of_ofOctet? {octet : UInt8} {tag : Tag} (h : ofOctet? octet = some tag) :
    tag.octet = octet := by
  rw [ofOctet?, Option.dite_none_right_eq_some] at h
  obtain ⟨htag, h⟩ := h
  cases h
  rfl

/-- A context specific tag of a constructed encoding is known by its number. -/
theorem Tag.eq_contextConstructed {tag : Tag} {n : Nat} (hnumber : tag.contextNumber? = some n)
    (hconstructed : tag.isConstructed = true) : tag = contextConstructed n := by
  obtain ⟨octet, htag⟩ := tag
  simp only [contextNumber?, Option.ite_none_right_eq_some, Option.some.injEq] at hnumber
  have small : ∀ k : Fin 256, isTagOctet (UInt8.ofNat k) = true → UInt8.ofNat k &&& 0xC0 = 0x80 →
      (UInt8.ofNat k &&& 0x20 != 0) = true →
      UInt8.ofNat k = 0xA0 + UInt8.ofNat ((UInt8.ofNat k &&& 0x1F).toNat % 31) := by
    decide +kernel
  have hk := small ⟨octet.toNat, octet.toNat_lt⟩
  simp only [UInt8.ofNat_toNat] at hk
  obtain ⟨hclass, rfl⟩ := hnumber
  simp only [contextConstructed, Tag.mk.injEq]
  exact hk htag hclass hconstructed

/-- A length is read in the form in which it is written, if it is not too large. -/
theorem readLength?_eq_some {bs rest : Bytes} {n : Nat} (h : readLength? bs = some (n, rest)) :
    encodeLength n ++ rest = bs ∧ n ≤ maxLength := by
  cases bs with
  | nil => simp [readLength?] at h
  | cons head bs =>
    rw [readLength?] at h
    split_ifs at h with hshort
    · simp only [Option.some.injEq, Prod.mk.injEq] at h
      obtain ⟨rfl, rfl⟩ := h
      have hlt : head.toNat < 0x80 := UInt8.lt_iff_toNat_lt.1 hshort
      exact ⟨by simp [encodeLength, hlt], (UInt8.toNat_lt head).le.trans (by decide)⟩
    · simp only [Option.ite_none_right_eq_some, Option.some.injEq, Prod.mk.injEq] at h
      obtain ⟨⟨hform, hle⟩, rfl, rfl⟩ := h
      exact ⟨by rw [hform, List.cons_append, List.take_append_drop], hle⟩

theorem digitCount_mono {n m : Nat} (h : n ≤ m) : Bytes.digitCount n ≤ Bytes.digitCount m := by
  by_cases hzero : n = 0
  · simp [hzero, Bytes.digitCount]
  · have hlt := (Bytes.pow_le_of_digitCount hzero).trans_lt (h.trans_lt (Bytes.lt_pow_digitCount m))
    have := (Nat.pow_lt_pow_iff_right (by decide)).1 hlt
    omega

theorem length_encodeLength_mono {n m : Nat} (h : n ≤ m) :
    (encodeLength n).length ≤ (encodeLength m).length := by
  have hmono := digitCount_mono h
  rw [encodeLength, encodeLength]
  split_ifs with hn hm <;> simp
  · omega
  · omega

namespace Element

/-! ### Elements -/

/-- An element is read in the form in which it is written, if it is not too long. -/
theorem read?_eq_some {bs rest : Bytes} {e : Element} (h : read? bs = some (e, rest)) :
    e.encode ++ rest = bs ∧ e.content.length ≤ maxLength := by
  cases bs with
  | nil => simp [read?] at h
  | cons octet bs =>
    simp only [read?, Option.bind_eq_bind, Option.bind_eq_some_iff, Prod.exists,
      Option.ite_none_right_eq_some, Option.some.injEq, Prod.mk.injEq] at h
    obtain ⟨tag, htag, length, content, hlength, hle, rfl, rfl⟩ := h
    obtain ⟨hform, hmax⟩ := readLength?_eq_some hlength
    refine ⟨?_, (List.length_take_le ..).trans hmax⟩
    rw [encode, Tag.octet_of_ofOctet? htag, List.length_take, Nat.min_eq_left hle,
      List.cons_append, List.append_assoc, List.take_append_drop, hform]

theorem read?_of_decode? {bs : Bytes} {e : Element} (h : decode? bs = some e) :
    read? bs = some (e, []) := by
  rw [decode?] at h
  split at h
  case h_1 e' hread =>
    cases h
    exact hread
  case h_2 => simp at h

theorem encode_of_decode? {bs : Bytes} {e : Element} (h : decode? bs = some e) : e.encode = bs := by
  simpa using (read?_eq_some (read?_of_decode? h)).1

theorem length_content_le_of_decode? {bs : Bytes} {e : Element} (h : decode? bs = some e) :
    e.content.length ≤ maxLength := (read?_eq_some (read?_of_decode? h)).2

theorem encodeAll_of_readUpTo? {fuel : Nat} {bs : Bytes} {es : List Element}
    (h : readUpTo? fuel bs = some es) : encodeAll es = bs := by
  induction fuel generalizing bs es with
  | zero =>
    cases bs with
    | nil => cases h; rfl
    | cons b bs => simp [readUpTo?] at h
  | succ fuel ih =>
    cases bs with
    | nil => cases h; rfl
    | cons b bs =>
      simp only [readUpTo?, Option.bind_eq_bind, Option.bind_eq_some_iff, Prod.exists,
        Option.pure_def, Option.some.injEq] at h
      obtain ⟨e, rest, hread, es, hrest, rfl⟩ := h
      rw [encodeAll_cons, ih hrest, (read?_eq_some hread).1]

theorem eq_of_fieldsOf? {tag : Tag} {e : Element} {fields : List Element}
    (h : e.fieldsOf? tag = some fields) : e = ⟨tag, encodeAll fields⟩ := by
  simp only [fieldsOf?, contentOf?, Option.bind_eq_some_iff, Option.ite_none_right_eq_some,
    Option.some.injEq] at h
  obtain ⟨content, ⟨rfl, rfl⟩, hread⟩ := h
  rw [encodeAll_of_readUpTo? hread]

theorem eq_sequence_of_sequence? {e : Element} {fields : List Element}
    (h : e.sequence? = some fields) : e = sequence fields := eq_of_fieldsOf? h

/-- Bytes that are not too long consist of elements in one way. -/
theorem encodeAll_inj {ds es : List Element} (h : (encodeAll es).length ≤ maxLength) :
    encodeAll ds = encodeAll es ↔ ds = es := by
  refine ⟨fun heq => ?_, fun heq => by rw [heq]⟩
  have hds := readAll?_encodeAll fun d (hd : d ∈ ds) =>
    (length_content_le_of_mem hd).trans (heq ▸ h)
  have hes := readAll?_encodeAll fun e (he : e ∈ es) => (length_content_le_of_mem he).trans h
  rw [heq, hes, Option.some.injEq] at hds
  exact hds.symm

/-- Of two elements the one with the longer content is longer. -/
theorem encode_inj {d e : Element} : d.encode = e.encode ↔ d = e := by
  refine ⟨fun heq => ?_, fun heq => by rw [heq]⟩
  have hlengths := congrArg List.length heq
  simp only [encode, List.length_cons, List.length_append] at hlengths
  have hlength : d.content.length = e.content.length := by
    rcases Nat.lt_trichotomy d.content.length e.content.length with hlt | hsame | hgt
    · have := length_encodeLength_mono hlt.le
      omega
    · exact hsame
    · have := length_encodeLength_mono hgt.le
      omega
  obtain ⟨⟨octet, hd⟩, content⟩ := d
  obtain ⟨⟨octet', he⟩, content'⟩ := e
  simp only [encode, List.cons.injEq] at heq hlength
  obtain ⟨rfl, heq⟩ := heq
  rw [hlength, List.append_cancel_left_eq] at heq
  rw [heq]

section Fields

variable {tag : Tag} {e : Element} {fields gs : List Element}

theorem mk_encodeAll_eq_iff (he : e.content.length ≤ maxLength)
    (h : e.fieldsOf? tag = some fields) : (⟨tag, encodeAll gs⟩ : Element) = e ↔ gs = fields := by
  have heq := eq_of_fieldsOf? h
  subst heq
  rw [Element.mk.injEq, and_iff_right rfl, encodeAll_inj he]

/-- The fields inside an element are no longer than it. -/
theorem length_content_le_of_fieldsOf? (he : e.content.length ≤ maxLength)
    (h : e.fieldsOf? tag = some fields) : ∀ f ∈ fields, f.content.length ≤ maxLength := by
  intro f hf
  have heq := eq_of_fieldsOf? h
  subst heq
  exact (length_content_le_of_mem hf).trans he

theorem sequence_eq_iff (he : e.content.length ≤ maxLength) (h : e.sequence? = some fields) :
    sequence gs = e ↔ gs = fields := mk_encodeAll_eq_iff he h

end Fields

/-! ### Tagging -/

theorem retag_eq_iff {d e : Element} (tag : Tag) (htag : d.tag = tag) {outer : Tag}
    (houter : e.tag = outer) : d.retag outer = e ↔ d = e.retag tag := by
  cases d
  cases e
  cases htag
  cases houter
  simp [retag]

theorem eq_contextConstructed_of_implicit? {e d : Element} {n : Nat} {tag : Tag}
    (htag : tag.isConstructed = true)
    (hnumber : e.tag.contextNumber? = some n) (h : e.implicit? tag = some d) :
    e.tag = .contextConstructed n ∧ d = e.retag tag := by
  rw [implicit?, Option.ite_none_right_eq_some, Option.some.injEq] at h
  exact ⟨Tag.eq_contextConstructed hnumber (h.1.trans htag), h.2.symm⟩

theorem eq_explicit_of_explicit? {e d : Element} {n : Nat}
    (hnumber : e.tag.contextNumber? = some n) (h : e.explicit? = some d) : e = d.explicit n := by
  rw [explicit?, Option.ite_none_right_eq_some] at h
  rw [explicit, encode_of_decode? h.2, ← Tag.eq_contextConstructed hnumber h.1]

/-- The element inside a tag is no longer than the whole. -/
theorem length_content_le_of_explicit? {e d : Element} (he : e.content.length ≤ maxLength)
    (h : e.explicit? = some d) : d.content.length ≤ maxLength := by
  rw [explicit?, Option.ite_none_right_eq_some] at h
  rw [← encode_of_decode? h.2] at he
  exact (length_content_le d).trans he

theorem explicit_eq_iff {c d e : Element} {n : Nat} (hnumber : e.tag.contextNumber? = some n)
    (h : e.explicit? = some d) : c.explicit n = e ↔ c = d := by
  have heq := eq_explicit_of_explicit? hnumber h
  subst heq
  rw [explicit, explicit, Element.mk.injEq, and_iff_right rfl, encode_inj]

end Element

/-! ### Values -/

variable {α : Type} {decode? : Element → Option α} {encode : α → Element} {P : Element → Prop}

/-- What is read from an element is written as it was, exactly if the element satisfies `P`. -/
def WritesBackOn (decode? : Element → Option α) (encode : α → Element) (P : Element → Prop) :
    Prop :=
  ∀ (e : Element) (x : α), e.content.length ≤ maxLength → decode? e = some x →
    (encode x = e ↔ P e)

/-- The fields of a SEQUENCE satisfy `P`. -/
def Element.HasFields (P : List Element → Prop) (e : Element) : Prop :=
  ∀ fields ∈ e.sequence?, P fields

instance {P : List Element → Prop} [DecidablePred P] (e : Element) : Decidable (e.HasFields P) :=
  inferInstanceAs (Decidable (∀ fields ∈ e.sequence?, P fields))

theorem Element.hasFields_iff {P : List Element → Prop} {e : Element} {fields : List Element}
    (h : e.sequence? = some fields) : e.HasFields P ↔ P fields := by
  simp [HasFields, h]

theorem map_eq_iff_of_mapM {fields : List Element} {xs : List α}
    (h : fields.mapM decode? = some xs)
    (hP : ∀ f ∈ fields, ∀ x, decode? f = some x → (encode x = f ↔ P f)) :
    xs.map encode = fields ↔ ∀ f ∈ fields, P f := by
  induction fields generalizing xs with
  | nil =>
    cases h
    simp
  | cons f fields ih =>
    simp only [List.mapM_cons, Option.bind_eq_bind, Option.bind_eq_some_iff, Option.pure_def,
      Option.some.injEq] at h
    obtain ⟨x, hx, xs, hxs, rfl⟩ := h
    obtain ⟨hf, hfields⟩ := List.forall_mem_cons.1 hP
    rw [List.map_cons, List.cons.injEq, hf x hx, ih hxs hfields, List.forall_mem_cons]

theorem WritesBackOn.sequenceOf (h : WritesBackOn decode? encode P) :
    WritesBackOn (Element.sequenceOf? decode?) (Element.sequenceOf encode)
      (Element.HasFields fun fields => ∀ f ∈ fields, P f) := by
  intro e xs he hxs
  rw [Element.sequenceOf?, Option.bind_eq_some_iff] at hxs
  obtain ⟨fields, hfields, hxs⟩ := hxs
  rw [Element.sequenceOf, Element.sequence_eq_iff he hfields, Element.hasFields_iff hfields]
  refine map_eq_iff_of_mapM hxs fun f hf x hx => h f x ?_ hx
  exact Element.length_content_le_of_fieldsOf? he hfields f hf

/-! ### Optional fields -/

theorem takeTagged?_eq_some {tag : Tag} {fields rest : List Element} {o : Option α}
    (h : takeTagged? tag decode? fields = some (o, rest)) :
    ∃ f : Option Element, fields = f.toList ++ rest ∧
      Option.Rel (fun f x => f.tag = tag ∧ decode? f = some x) f o := by
  cases fields with
  | nil =>
    simp only [takeTagged?, takeOptional?, Option.some.injEq, Prod.mk.injEq] at h
    obtain ⟨rfl, rfl⟩ := h
    exact ⟨none, rfl, .none⟩
  | cons f fields =>
    simp only [takeTagged?, takeOptional?, decide_eq_true_eq] at h
    split_ifs at h with htag
    · obtain ⟨x, hx, heq⟩ := Option.map_eq_some_iff.1 h
      cases heq
      exact ⟨some f, rfl, .some ⟨htag, hx⟩⟩
    · cases h
      exact ⟨none, rfl, .none⟩

/-- Fields with a lower number may be passed over in front of a context specific one. -/
theorem takeContext?_eq_some {n : Nat} {fields rest : List Element} {o : Option α}
    (h : takeContext? n decode? fields = some (o, rest)) :
    ∃ (skipped : List Element) (f : Option Element), fields = skipped ++ f.toList ++ rest ∧
      (∀ s ∈ skipped, ∃ k < n, s.tag.contextNumber? = some k) ∧
      Option.Rel (fun f x => f.tag.contextNumber? = some n ∧ decode? f = some x) f o ∧
      (f = none → ∀ g ∈ rest.head?, g.tag.contextNumber? ≠ some n) := by
  induction fields with
  | nil =>
    simp only [takeContext?, Option.some.injEq, Prod.mk.injEq] at h
    obtain ⟨rfl, rfl⟩ := h
    exact ⟨[], none, rfl, by simp, .none, by simp⟩
  | cons f fields ih =>
    rw [takeContext?] at h
    split at h
    case h_1 hnumber =>
      cases h
      exact ⟨[], none, rfl, by simp, .none, by simp [hnumber]⟩
    case h_2 k hnumber =>
      split_ifs at h with hlt heq
      · cases h
        exact ⟨[], none, rfl, by simp, .none, by simp [hnumber]; omega⟩
      · obtain ⟨x, hx, hpair⟩ := Option.map_eq_some_iff.1 h
        cases hpair
        exact ⟨[], some f, rfl, by simp, .some ⟨heq ▸ hnumber, hx⟩, by simp⟩
      · obtain ⟨skipped, g, rfl, hskipped, hrel, hrest⟩ := ih h
        refine ⟨f :: skipped, g, rfl, ?_, hrel, hrest⟩
        rw [List.forall_mem_cons]
        exact ⟨⟨k, by omega, hnumber⟩, hskipped⟩

/-- In front of the number 0 no field is passed over. -/
theorem takeContext?_zero {fields rest : List Element} {o : Option α}
    (h : takeContext? 0 decode? fields = some (o, rest)) :
    ∃ f : Option Element, fields = f.toList ++ rest ∧
      Option.Rel (fun f x => f.tag.contextNumber? = some 0 ∧ decode? f = some x) f o ∧
      (f = none → ∀ g ∈ rest.head?, g.tag.contextNumber? ≠ some 0) := by
  obtain ⟨skipped, f, rfl, hskipped, hrel, hrest⟩ := takeContext?_eq_some h
  obtain rfl : skipped = [] := List.eq_nil_iff_forall_not_mem.2 fun s hs => by
    obtain ⟨k, hk, -⟩ := hskipped s hs
    exact Nat.not_lt_zero k hk
  exact ⟨f, rfl, hrel, hrest⟩

/-- No two fields have the same number. -/
def HasDistinctNumbers (fields : List Element) : Prop :=
  (fields.map (·.tag.contextNumber?)).Nodup

instance : DecidablePred HasDistinctNumbers := fun fields =>
  inferInstanceAs (Decidable (fields.map (·.tag.contextNumber?)).Nodup)

/-- Where fields with the numbers 0 and 1 are sought, others are passed over only if a number
occurs twice. -/
theorem takeContext?_zero_one {β : Type} {decode₁? : Element → Option β}
    {fields rest : List Element} {o : Option α} {o₁ : Option β}
    (h : takeContext? 0 decode? fields = some (o, rest))
    (h₁ : takeContext? 1 decode₁? rest = some (o₁, [])) :
    ∃ (f : Option Element) (skipped : List Element) (f₁ : Option Element),
      fields = f.toList ++ (skipped ++ f₁.toList) ∧
      Option.Rel (fun f x => f.tag.contextNumber? = some 0 ∧ decode? f = some x) f o ∧
      Option.Rel (fun f x => f.tag.contextNumber? = some 1 ∧ decode₁? f = some x) f₁ o₁ ∧
      (HasDistinctNumbers fields ↔ skipped = []) := by
  obtain ⟨f, rfl, hrel, hrest⟩ := takeContext?_zero h
  obtain ⟨skipped, f₁, rfl, hskipped, hrel₁, -⟩ := takeContext?_eq_some h₁
  refine ⟨f, skipped, f₁, by simp, hrel, hrel₁, ?_⟩
  cases skipped with
  | nil => cases hrel <;> cases hrel₁ <;> simp_all [HasDistinctNumbers]
  | cons s skipped =>
    obtain ⟨k, hk, hs⟩ := hskipped s (List.mem_cons_self ..)
    obtain rfl : k = 0 := by omega
    cases hrel with
    | none => exact absurd hs (hrest rfl s (by simp))
    | some hf => simp [HasDistinctNumbers, hf.1, hs]

theorem map_eq_of_rel {R : Element → α → Prop} {f : Option Element} {o : Option α}
    (h : Option.Rel R f o) (hR : ∀ f x, R f x → encode x = f) : o.map encode = f := by
  cases h with
  | none => rfl
  | some h => rw [Option.map_some, hR _ _ h]

/-- Two optional fields are written as they were if none was passed over between them. -/
theorem toList_append_toList_eq_iff {β : Type} {R : Element → α → Prop}
    {R₁ : Element → β → Prop} {f f₁ : Option Element} {o : Option α} {o₁ : Option β}
    (h : Option.Rel R f o) (h₁ : Option.Rel R₁ f₁ o₁) (skipped : List Element)
    (encode : α → Element) (encode₁ : β → Element) :
    (o.map encode).toList ++ (o₁.map encode₁).toList = f.toList ++ (skipped ++ f₁.toList) ↔
      skipped = [] ∧ o.map encode = f ∧ o₁.map encode₁ = f₁ := by
  cases h <;> cases h₁ <;> cases skipped <;> simp

theorem WritesBackOn.tagged (h : WritesBackOn decode? encode P) {tag : Tag}
    {f : Option Element} {o : Option α} (hf : ∀ g ∈ f, g.content.length ≤ maxLength)
    (hrel : Option.Rel (fun g x => g.tag = tag ∧ decode? g = some x) f o) :
    (∀ g ∈ f, g.tag = tag) ∧ (o.map encode = f ↔ ∀ g ∈ f, P g) := by
  cases hrel with
  | none => simp
  | @some g x hg => simpa [hg.1] using h g x (hf g rfl) hg.2

/-- What an implicit tag hides is written back as without the tag. -/
theorem WritesBackOn.implicit (h : WritesBackOn decode? encode P) (tag : Tag)
    (hconstructed : tag.isConstructed = true) (htag : ∀ x, (encode x).tag = tag) {n : Nat}
    {f : Option Element} {o : Option α} (hf : ∀ g ∈ f, g.content.length ≤ maxLength)
    (hrel : Option.Rel (fun g x => g.tag.contextNumber? = some n ∧
      (g.implicit? tag).bind decode? = some x) f o) :
    (∀ g ∈ f, g.tag = .contextConstructed n) ∧
      (o.map (fun x => (encode x).retag (.contextConstructed n)) = f ↔
        ∀ g ∈ f, P (g.retag tag)) := by
  cases hrel with
  | none => simp
  | @some g x hg =>
    obtain ⟨hnumber, hx⟩ := hg
    obtain ⟨d, hd, hx⟩ := Option.bind_eq_some_iff.1 hx
    obtain ⟨hn, rfl⟩ := Element.eq_contextConstructed_of_implicit? hconstructed hnumber hd
    have hinner := h (g.retag tag) x (hf g rfl) hx
    simpa [hn, Element.retag_eq_iff tag (htag x) hn] using hinner

/-! ### Sets -/

/-- The fields of a SET stand in the order of their encodings. -/
def Element.IsOrdered (e : Element) : Prop :=
  ∀ fields ∈ e.fieldsOf? .set, fields.Pairwise fun f g => f.encode < g.encode

instance (e : Element) : Decidable e.IsOrdered :=
  inferInstanceAs (Decidable (∀ fields ∈ e.fieldsOf? .set, _))

theorem SetOf.toElement_eq_iff {e : Element} {s : SetOf α fun a => (encode a).encode}
    (he : e.content.length ≤ maxLength) (hread : ∀ f x, decode? f = some x → encode x = f)
    (h : SetOf.ofElement? decode? e = some s) :
    s.toElement = e ↔ e.IsOrdered := by
  simp only [SetOf.ofElement?, SetOf.ofList?, Option.bind_eq_bind, Option.bind_eq_some_iff,
    Option.dite_none_right_eq_some, Option.some.injEq] at h
  obtain ⟨fields, hfields, values, hvalues, hsorted, rfl⟩ := h
  have hencode : values.map encode = fields :=
    (map_eq_iff_of_mapM (P := fun _ => True) hvalues fun f _ x hx => by simp [hread f x hx]).2
      fun _ _ => trivial
  have hpairwise : (fields.Pairwise fun f g => f.encode < g.encode) ↔
      values.Pairwise fun a b => (encode a).encode < (encode b).encode := by
    rw [← hencode, List.pairwise_map]
  simp only [SetOf.toElement, Element.mk_encodeAll_eq_iff he hfields, Element.IsOrdered, hfields,
    Option.mem_def, Option.some.injEq, forall_eq', hpairwise]
  constructor
  · intro heq
    rw [← hpairwise, ← heq, List.pairwise_map]
    exact hsorted
  · intro hvalues
    rw [List.mergeSort_of_pairwise, hencode]
    exact hvalues.imp fun hlt => decide_eq_true (List.le_of_lt hlt)

end GridAuthz.Der
