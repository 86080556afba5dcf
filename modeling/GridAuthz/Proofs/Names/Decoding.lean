import GridAuthz.Proofs.AttributeCertificate.CanonicalForm
import GridAuthz.Proofs.AttributeCertificate.Targets
import GridAuthz.Proofs.Certificate.ReadBack

/-!
# Decoded names

A name that was decoded is as long when it is written again, even if the attributes come in another
order (`Name.length_encode_of_ofDer?`), and the types of its attributes can be read
(`Name.allReadable_of_ofDer?`).
-/

namespace GridAuthz

namespace Der

variable {α : Type} {decode? : Element → Option α} {encode : α → Element}

/-- A set has the values that it was made of. -/
theorem SetOf.perm_of_ofList? {encoding : α → Bytes} {values : List α} {s : SetOf α encoding}
    (h : ofList? values = some s) : s.members.Perm values := by
  rw [ofList?, Option.dite_none_right_eq_some] at h
  obtain ⟨_, h⟩ := h
  cases h
  exact List.mergeSort_perm _ _

theorem SetOf.exists_of_ofElement? {e : Element} {s : SetOf α fun a => (encode a).encode}
    (h : SetOf.ofElement? decode? e = some s) :
    ∃ fields values, e.fieldsOf? .set = some fields ∧ fields.mapM decode? = some values ∧
      s.members.Perm values := by
  simp only [SetOf.ofElement?, Option.bind_eq_bind, Option.bind_eq_some_iff] at h
  obtain ⟨fields, hfields, values, hvalues, hs⟩ := h
  exact ⟨fields, values, hfields, hvalues, SetOf.perm_of_ofList? hs⟩

theorem length_encodeAll_of_mapM {fields : List Element} {xs : List α}
    (h : fields.mapM decode? = some xs)
    (hlength : ∀ f x, decode? f = some x → (encode x).encode.length = f.encode.length) :
    (Element.encodeAll (xs.map encode)).length = (Element.encodeAll fields).length := by
  induction fields generalizing xs with
  | nil =>
    cases h
    rfl
  | cons f fields ih =>
    simp only [List.mapM_cons, Option.bind_eq_bind, Option.bind_eq_some_iff, Option.pure_def,
      Option.some.injEq] at h
    obtain ⟨x, hx, xs, hxs, rfl⟩ := h
    rw [List.map_cons, Element.encodeAll_cons, Element.encodeAll_cons, List.length_append,
      List.length_append, hlength f x hx, ih hxs]

theorem Element.length_encode_congr {d e : Element} (h : d.content.length = e.content.length) :
    d.encode.length = e.encode.length := by
  rw [encode, encode, h]
  simp [h]

/-- A set is as long in the order of its encodings as it was when it was read. -/
theorem SetOf.length_encode_of_ofElement? {e : Element} {s : SetOf α fun a => (encode a).encode}
    (hlength : ∀ f x, decode? f = some x → (encode x).encode.length = f.encode.length)
    (h : SetOf.ofElement? decode? e = some s) : s.toElement.encode.length = e.encode.length := by
  obtain ⟨fields, values, hfields, hvalues, hperm⟩ := SetOf.exists_of_ofElement? h
  rw [Element.eq_of_fieldsOf? hfields]
  apply Element.length_encode_congr
  calc (Element.encodeAll (s.members.map encode)).length
      = (Element.encodeAll (values.map encode)).length :=
        ((hperm.map encode).flatMap_right Element.encode).length_eq
    _ = (Element.encodeAll fields).length := length_encodeAll_of_mapM hvalues hlength

end Der

theorem Oid.isReadable_of_ofElement? {e : Der.Element} {id : Oid} (h : ofElement? e = some id) :
    id.IsReadable := by
  simp only [ofElement?, ofContent?, guard, Option.bind_eq_bind, Option.bind_eq_some_iff,
    Option.dite_none_right_eq_some, Option.some.injEq] at h
  obtain ⟨content, -, _, hguard, _, rfl⟩ := h
  split at hguard
  case isTrue hreadable => exact hreadable
  case isFalse => simp at hguard

theorem NameAttribute.isReadable_of_ofElement? {e : Der.Element} {a : NameAttribute}
    (h : ofElement? e = some a) : a.kind.IsReadable := by
  simp only [ofElement?, Option.bind_eq_bind, Option.bind_eq_some_iff] at h
  obtain ⟨fields, -, h⟩ := h
  split at h
  case h_1 =>
    obtain ⟨kind, hkind, h⟩ := Option.bind_eq_some_iff.1 h
    cases h
    exact Oid.isReadable_of_ofElement? hkind
  case h_2 => simp at h

namespace Name

variable {bytes : Bytes} {n : Name}

theorem exists_of_ofDer? (h : ofDer? bytes = some n) :
    ∃ fields, (Der.Element.sequence fields).encode = bytes ∧
      fields.mapM (Der.SetOf.ofElement? NameAttribute.ofElement?) = some n.parts := by
  obtain ⟨e, he, h⟩ := Option.bind_eq_some_iff.1 h
  obtain ⟨parts, hparts, rfl⟩ := Option.map_eq_some_iff.1 h
  obtain ⟨fields, hfields, hparts⟩ := Option.bind_eq_some_iff.1 hparts
  refine ⟨fields, ?_, hparts⟩
  rw [← Der.Element.eq_sequence_of_sequence? hfields, Der.Element.encode_of_decode? he]

/-- A name that can be read and is not too long is decoded from its encoding. -/
theorem ofDer?_encode_toElement (hread : Oid.AllReadable n.oids)
    (hlen : n.toElement.content.length ≤ Der.maxLength) :
    ofDer? n.toElement.encode = some n := by
  rw [ofDer?, Der.Element.decode?_encode hlen, Option.bind_some]
  exact (Name.readsBackOn n hlen n).2 ⟨hread, rfl⟩

theorem length_encode_of_ofDer? (h : ofDer? bytes = some n) :
    n.toElement.encode.length = bytes.length := by
  obtain ⟨fields, rfl, hparts⟩ := exists_of_ofDer? h
  refine Der.Element.length_encode_congr (Der.length_encodeAll_of_mapM hparts fun f part hpart => ?_)
  refine Der.SetOf.length_encode_of_ofElement? (fun f a ha => ?_) hpart
  rw [NameAttribute.toElement_of_ofElement? ha]

theorem allReadable_of_ofDer? (h : ofDer? bytes = some n) : Oid.AllReadable n.oids := by
  obtain ⟨fields, -, hparts⟩ := exists_of_ofDer? h
  rw [oids, Oid.allReadable_flatMap]
  intro part hpart
  obtain ⟨f, -, hf⟩ := (mem_of_mapM hparts).2 part hpart
  obtain ⟨_, values, -, hvalues, hperm⟩ := Der.SetOf.exists_of_ofElement? hf
  rw [Oid.allReadable_flatMap]
  intro a ha
  obtain ⟨e, -, he⟩ := (mem_of_mapM hvalues).2 a (hperm.mem_iff.1 ha)
  simpa [NameAttribute.oids] using NameAttribute.isReadable_of_ofElement? he

end Name

end GridAuthz
