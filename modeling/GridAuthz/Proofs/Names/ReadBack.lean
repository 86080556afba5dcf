import GridAuthz.GeneralName
import GridAuthz.Proofs.Certificate.ReadBack

/-!
# General names read back

The eight kinds of names are told apart by their tags, so that a name is only ever read as one of its
own kind (`GeneralName.readsBackOn`).
-/

namespace GridAuthz

open Der

theorem DirectoryString.readsBackOn : ReadsBackOn ofElement? element fun _ => True := by
  rintro ⟨e, he⟩ - ⟨e', he'⟩
  simp [ofElement?, he]

namespace GeneralName

/-- The identifiers in a name; the value of a name that has one is not looked into. -/
def oids : GeneralName → List Oid
  | other type _ => [type]
  | directory name => name.oids
  | registered id => [id]
  | _ => []

theorem ofElement?_other {type : Oid} {value : Element}
    (hlen : (other type value).toElement.content.length ≤ maxLength) (y : GeneralName) :
    ofElement? (other type value).toElement = some y ↔
      type.IsReadable ∧ other type value = y := by
  have hfields := length_content_le_of_retag hlen
  have htype := Oid.readsBackOn type (hfields _ (by simp))
  have hvalue : (value.explicit 0).explicit? = some value :=
    Element.explicit?_explicit 0
      ((Element.length_content_le value).trans (hfields (value.explicit 0) (by simp)))
  have hread : ofElement? (other type value).toElement =
      otherOfElement? (.sequence [type.toElement, value.explicit 0]) := rfl
  rw [hread, otherOfElement?, Element.sequence?_sequence hlen]
  simp [takeExplicit?, takeContext?, hvalue, htype, Option.bind_eq_some_iff]

theorem ofElement?_ediParty {assigner : Option DirectoryString} {party : DirectoryString}
    (hlen : (ediParty assigner party).toElement.content.length ≤ maxLength) :
    ofElement? (ediParty assigner party).toElement = some (ediParty assigner party) := by
  have hfields := length_content_le_of_retag hlen
  have htakeAssigner := (DirectoryString.readsBackOn.explicit 0).takeContext 0 (by simp)
    hfields (by simp)
  have htakeParty := (DirectoryString.readsBackOn.explicit 1).takeContext_last 1
    (o := some party) (by simp) (fun f hf => hfields f (List.mem_append_right _ hf))
  have hread : ofElement? (ediParty assigner party).toElement =
      ediPartyOfElement? (.sequence ((assigner.map fun s => s.element.explicit 0).toList ++
        [party.element.explicit 1])) := rfl
  rw [hread, ediPartyOfElement?, Element.sequence?_sequence hlen]
  simp only [Option.map_some, Option.toList_some] at htakeParty
  simp [takeExplicit?, htakeAssigner, htakeParty, Option.bind_eq_some_iff]

theorem readsBackOn : ReadsBackOn ofElement? toElement fun n => Oid.AllReadable n.oids := by
  intro name hlen y
  cases name with
  | other type value => simpa [oids] using ofElement?_other hlen y
  | email address =>
    have hread : ofElement? (email address).toElement =
        (AsciiText.ofElement? address.toElement).map email := rfl
    simp [hread, oids]
  | dns host =>
    have hread : ofElement? (dns host).toElement =
        (AsciiText.ofElement? host.toElement).map dns := rfl
    simp [hread, oids]
  | directory name =>
    have hinner : name.toElement.content.length ≤ maxLength :=
      (Element.length_content_le _).trans hlen
    have hread : ofElement? (directory name).toElement =
        ((name.toElement.explicit 4).explicit?.bind Name.ofElement?).map directory := rfl
    simp [hread, Element.explicit?_explicit 4 hinner, Name.readsBackOn name hinner, oids]
  | ediParty assigner party => simp [ofElement?_ediParty hlen, oids]
  | uri identifier =>
    have hread : ofElement? (uri identifier).toElement =
        (AsciiText.ofElement? identifier.toElement).map uri := rfl
    simp [hread, oids]
  | ip address =>
    have hread : ofElement? (ip address).toElement = some (ip address) := rfl
    simp [hread, oids]
  | registered id =>
    have hread : ofElement? (registered id).toElement =
        (Oid.ofElement? id.toElement).map registered := rfl
    simp [hread, Oid.readsBackOn id hlen, oids]

theorem listReadsBackOn :
    ReadsBackOn list? listElement fun names => ∀ n ∈ names, Oid.AllReadable n.oids :=
  readsBackOn.sequenceOf

end GeneralName

end GridAuthz
