import Mathlib.Algebra.Order.BigOperators.Group.List
import Mathlib.Data.Set.List
import GridAuthz.Proofs.AttributeCertificate.Targets
import GridAuthz.Proofs.Der.Forms
import GridAuthz.Proofs.Names.ReadBack
import GridAuthz.Proofs.Steps

/-!
# Lists of targets written and read

Names are written as one list of targets if all of them are ASCII and there is room for them in an
encoding, and then they are read back (`Targets.toDer?_eq_some_iff`, `Targets.ofDer?_toDer?`). One
name can be too long (`Targets.toDer?_nameOfLength`). The reader takes any number of lists with
targets of all kinds. What it finds depends on nothing but the targets that are given by a name, in
their order: neither on how they are put into lists nor on what stands between them
(`Targets.ofDer?_encode`, `Targets.hosts?_filter`).
-/

namespace GridAuthz

open Der

/-! ### Lengths -/

/-- How many bytes an encoding with `n` bytes of content has. -/
def Der.encodedLength (n : Nat) : Nat := 1 + (encodeLength n).length + n

theorem Der.le_encodedLength (n : Nat) : n ≤ encodedLength n := Nat.le_add_left _ _

theorem Der.Element.length_encode (e : Element) :
    e.encode.length = encodedLength e.content.length := by
  simp only [encode, encodedLength, List.length_cons, List.length_append]
  omega

namespace Targets

/-! ### Writing -/

/-- All characters of a text are ASCII. -/
def IsAscii (name : String) : Prop := ∀ c ∈ name.toList, c.toNat < 0x80

instance (name : String) : Decidable (IsAscii name) := List.decidableBAll _ name.toList

/-- The target that is given by a name, one byte for each character. -/
def target (name : String) : Element :=
  Element.explicit 0 ⟨.contextPrimitive 6, name.toList.map fun c => UInt8.ofNat c.toNat⟩

/-- Lists of targets as an extension holds them. -/
def listsElement (lists : List (List Element)) : Element := .sequenceOf Element.sequence lists

/-- How many bytes the encoding of one list of targets with the given names has. -/
def size (names : List String) : Nat :=
  encodedLength <| encodedLength
    (names.map fun name => encodedLength (encodedLength name.length)).sum

theorem length_content_target (name : String) :
    (target name).content.length = encodedLength name.length := by
  rw [target, Element.explicit, Element.length_encode, List.length_map, String.length_toList]

theorem length_listsElement_target (names : List String) :
    (listsElement [names.map target]).encode.length = size names := by
  have htargets : (Element.encodeAll (names.map target)).length =
      (names.map fun name => encodedLength (encodedLength name.length)).sum := by
    rw [Element.encodeAll, List.length_flatMap, List.map_map]
    congr 1
    refine List.map_congr_left fun name _ => ?_
    rw [Function.comp_apply, Element.length_encode, length_content_target]
  have hlists : (listsElement [names.map target]).content =
      (Element.sequence (names.map target)).encode := List.append_nil _
  rw [Element.length_encode, hlists, Element.length_encode, Element.sequence, htargets, size]

/-- No name is longer than the encoding of the list that it is in. -/
theorem length_le_size {name : String} {names : List String} (h : name ∈ names) :
    name.length ≤ size names := by
  have hmem : encodedLength (encodedLength name.length) ∈
      names.map fun name => encodedLength (encodedLength name.length) :=
    List.mem_map_of_mem h
  calc name.length
    _ ≤ encodedLength name.length := le_encodedLength _
    _ ≤ encodedLength (encodedLength name.length) := le_encodedLength _
    _ ≤ (names.map fun name => encodedLength (encodedLength name.length)).sum :=
      List.le_sum_of_mem hmem
    _ ≤ encodedLength _ := le_encodedLength _
    _ ≤ size names := le_encodedLength _

theorem targetElement?_eq (name : String) :
    targetElement? name = if IsAscii name then some (target name) else none := by
  have hascii : name.toList.all (·.toNat < 0x80) = true ↔ IsAscii name := by simp [IsAscii]
  rw [targetElement?, AsciiText.ofString?]
  split_ifs with hall h h
  · rfl
  · exact absurd (hascii.1 hall) h
  · exact absurd (hascii.2 h) hall
  · rfl

theorem mapM_targetElement?_eq_some_iff {names : List String} {targets : List Element} :
    names.mapM targetElement? = some targets ↔
      (∀ name ∈ names, IsAscii name) ∧ names.map target = targets := by
  induction names generalizing targets with
  | nil => simp
  | cons name names ih =>
    simp only [List.mapM_cons, Option.bind_eq_bind, Option.bind_eq_some_iff, targetElement?_eq,
      Option.ite_none_right_eq_some, Option.some.injEq, ih, Option.pure_def, List.forall_mem_cons,
      List.map_cons]
    constructor
    · rintro ⟨_, ⟨hname, rfl⟩, _, ⟨hnames, rfl⟩, rfl⟩
      exact ⟨⟨hname, hnames⟩, rfl⟩
    · rintro ⟨⟨hname, hnames⟩, rfl⟩
      exact ⟨_, ⟨hname, rfl⟩, _, ⟨hnames, rfl⟩, rfl⟩

/-- Names are written if they are ASCII, and not longer than any encoding can be. -/
theorem toDer?_eq_some_iff {names : List String} {bytes : Bytes} :
    toDer? names = some bytes ↔ ((∀ name ∈ names, IsAscii name) ∧ size names ≤ maxLength) ∧
      (listsElement [names.map target]).encode = bytes := by
  simp only [toDer?, toElement?, Option.bind_eq_some_iff, Option.map_eq_some_iff,
    mapM_targetElement?_eq_some_iff, Element.encode?, Option.ite_none_right_eq_some,
    Option.some.injEq]
  constructor
  · rintro ⟨_, ⟨_, ⟨hascii, rfl⟩, rfl⟩, hlen, rfl⟩
    exact ⟨⟨hascii, (length_listsElement_target names).symm.trans_le hlen⟩, rfl⟩
  · rintro ⟨⟨hascii, hsize⟩, rfl⟩
    exact ⟨_, ⟨_, ⟨hascii, rfl⟩, rfl⟩, (length_listsElement_target names).trans_le hsize, rfl⟩

/-! ### Reading -/

/-- A target is given by a name. -/
def isName (target : Element) : Bool := target.tag = .contextConstructed 0

/-- The hosts of targets in a row. -/
def hosts? (targets : List Element) : Option (List String) :=
  (targets.mapM hostOfTarget?).map (·.filterMap id)

theorem hosts?_cons (target : Element) (targets : List Element) :
    hosts? (target :: targets) =
      (hostOfTarget? target).bind fun host => (hosts? targets).map (host.toList ++ ·) := by
  rw [hosts?, List.mapM_cons, hosts?]
  cases hostOfTarget? target with
  | none => rfl
  | some host =>
    cases targets.mapM hostOfTarget? with
    | none => rfl
    | some read => cases host <;> rfl

theorem hosts?_append (targets targets' : List Element) :
    hosts? (targets ++ targets') =
      (hosts? targets).bind fun hosts => (hosts? targets').map (hosts ++ ·) := by
  induction targets with
  | nil => simp [hosts?, Function.comp_def]
  | cons target targets ih =>
    rw [List.cons_append, hosts?_cons, hosts?_cons, ih]
    cases hostOfTarget? target with
    | none => rfl
    | some host => cases hosts? targets <;> cases hosts? targets' <;> simp

/-- Hosts are found list by list. -/
theorem hosts?_flatten (lists : List (List Element)) :
    hosts? lists.flatten = (lists.mapM hosts?).map List.flatten := by
  induction lists with
  | nil => rfl
  | cons list lists ih =>
    rw [List.flatten_cons, hosts?_append, ih, List.mapM_cons]
    cases hosts? list <;> cases lists.mapM hosts? <;> rfl

/-- What is not given by a name is passed over. -/
theorem hosts?_filter (targets : List Element) :
    hosts? (targets.filter isName) = hosts? targets := by
  induction targets with
  | nil => rfl
  | cons target targets ih =>
    by_cases hname : isName target = true
    · rw [List.filter_cons_of_pos hname, hosts?_cons, hosts?_cons, ih]
    · have hpassed : hostOfTarget? target = some none := by
        rw [hostOfTarget?, if_neg (by simpa [isName] using hname)]
      rw [List.filter_cons_of_neg hname, ih, hosts?_cons, hpassed]
      simp

/-- The hosts of one list are found as those of its targets in a row. -/
theorem mapM_hostsOfElement? {lists : List (List Element)}
    (hlen : ∀ e ∈ lists.map Element.sequence, e.content.length ≤ maxLength) :
    (lists.map Element.sequence).mapM hostsOfElement? = lists.mapM hosts? := by
  induction lists with
  | nil => rfl
  | cons list lists ih =>
    rw [List.map_cons, List.forall_mem_cons] at hlen
    have hlist : hostsOfElement? (.sequence list) = hosts? list := by
      rw [hostsOfElement?, Element.sequenceOf?, Element.sequence?_sequence hlen.1, Option.bind_some,
        hosts?]
    rw [List.map_cons, List.mapM_cons, List.mapM_cons, hlist, ih hlen.2]

/-- An extension is read for the hosts of all its targets in a row. -/
theorem ofDer?_encode {lists : List (List Element)}
    (hlen : (listsElement lists).content.length ≤ maxLength) :
    ofDer? (listsElement lists).encode = hosts? lists.flatten := by
  have hlists : ∀ e ∈ lists.map Element.sequence, e.content.length ≤ maxLength :=
    fun e he => (Element.length_content_le_of_mem he).trans hlen
  rw [ofDer?, Element.decode?_encode hlen, Option.bind_some, ofElement?, Element.sequenceOf?,
    listsElement, Element.sequenceOf, Element.sequence?_sequence hlen, Option.bind_some,
    mapM_hostsOfElement? hlists, hosts?_flatten]

/-- Only lists of targets are read. -/
theorem exists_lists_of_ofDer? {bytes : Bytes} {hosts : List String}
    (h : ofDer? bytes = some hosts) :
    ∃ lists, (listsElement lists).encode = bytes ∧
      (listsElement lists).content.length ≤ maxLength := by
  obtain ⟨e, he, h⟩ := Option.bind_eq_some_iff.1 h
  obtain ⟨results, h, -⟩ := Option.map_eq_some_iff.1 h
  obtain ⟨fields, hfields, hresults⟩ := Option.bind_eq_some_iff.1 h
  have hlists : fields ∈ Set.range (List.map Element.sequence) := by
    rw [Set.range_list_map]
    intro f hf
    obtain ⟨hosts, -, hread⟩ := (mem_of_mapM hresults).1 f hf
    obtain ⟨read, hread, -⟩ := Option.map_eq_some_iff.1 hread
    obtain ⟨targets, htargets, -⟩ := Option.bind_eq_some_iff.1 hread
    exact ⟨targets, (Element.eq_sequence_of_sequence? htargets).symm⟩
  obtain ⟨lists, rfl⟩ := hlists
  have heq : listsElement lists = e := (Element.eq_sequence_of_sequence? hfields).symm
  exact ⟨lists, by rw [heq, Element.encode_of_decode? he],
    by rw [heq]; exact Element.length_content_le_of_decode? he⟩

/-! ### Reading what was written -/

/-- A target that is given by an ASCII name is read for that name. -/
theorem hostOfTarget?_target {name : String} (hascii : IsAscii name)
    (hlen : (target name).content.length ≤ maxLength) :
    hostOfTarget? (target name) = some (some name) := by
  have htext : name.toList.all (·.toNat < 0x80) = true := by simpa [IsAscii] using hascii
  have hinner : (GeneralName.uri ⟨name, htext⟩).toElement.content.length ≤ maxLength :=
    (Element.length_content_le _).trans hlen
  have hname : GeneralName.ofElement? (GeneralName.uri ⟨name, htext⟩).toElement =
      some (.uri ⟨name, htext⟩) :=
    (GeneralName.readsBackOn _ hinner _).2 ⟨by simp [GeneralName.oids], rfl⟩
  have hexplicit : (target name).explicit? = some (GeneralName.uri ⟨name, htext⟩).toElement :=
    Element.explicit?_explicit 0 hinner
  have htag : (target name).tag = .contextConstructed 0 := rfl
  rw [hostOfTarget?, if_pos htag, hexplicit, Option.bind_some, hname]
  rfl

theorem hosts?_map_target {names : List String} (hascii : ∀ name ∈ names, IsAscii name)
    (hlen : ∀ e ∈ names.map target, e.content.length ≤ maxLength) :
    hosts? (names.map target) = some names := by
  induction names with
  | nil => rfl
  | cons name names ih =>
    rw [List.forall_mem_cons] at hascii
    rw [List.map_cons, List.forall_mem_cons] at hlen
    rw [List.map_cons, hosts?_cons, hostOfTarget?_target hascii.1 hlen.1, ih hascii.2 hlen.2]
    rfl

theorem ofDer?_toDer? {names : List String} {bytes : Bytes} (h : toDer? names = some bytes) :
    ofDer? bytes = some names := by
  obtain ⟨⟨hascii, hsize⟩, rfl⟩ := toDer?_eq_some_iff.1 h
  have hlists : (listsElement [names.map target]).content.length ≤ maxLength :=
    (Element.length_content_le _).trans ((length_listsElement_target names).trans_le hsize)
  have hlist : (Element.sequence (names.map target)).content.length ≤ maxLength :=
    (Element.length_content_le_of_mem (List.mem_singleton_self _)).trans hlists
  rw [ofDer?_encode hlists, List.flatten_singleton,
    hosts?_map_target hascii (length_content_le_of_sequence hlist)]

/-! ### Targets of all kinds -/

/-- What several lists give is what each of them gives alone, one after the other. -/
theorem exists_forall₂_of_ofDer? {lists : List (List Element)} {hosts : List String}
    (hlen : (listsElement lists).content.length ≤ maxLength)
    (h : ofDer? (listsElement lists).encode = some hosts) :
    ∃ results, List.Forall₂ (fun list result => ofDer? (listsElement [list]).encode = some result)
      lists results ∧ results.flatten = hosts := by
  rw [ofDer?_encode hlen, hosts?_flatten, Option.map_eq_some_iff] at h
  obtain ⟨results, hresults, hflatten⟩ := h
  refine ⟨results, ?_, hflatten⟩
  have hlists : ∀ list ∈ lists, (listsElement [list]).content.length ≤ maxLength := fun list hlist =>
    (Element.length_content_sequenceOf_singleton_le hlist).trans hlen
  refine ((List.forall₂_and_left _ _).2 ⟨hlists, mapM_eq_some_iff_forall₂.1 hresults⟩).imp ?_
  rintro list result ⟨hlist, hread⟩
  rw [ofDer?_encode hlist, List.flatten_singleton, hread]

theorem length_content_le_of_ofDer? {lists : List (List Element)} {hosts : List String}
    (h : ofDer? (listsElement lists).encode = some hosts) :
    (listsElement lists).content.length ≤ maxLength := by
  obtain ⟨e, he, -⟩ := Option.bind_eq_some_iff.1 h
  rw [← Element.encode_inj.1 (Element.encode_of_decode? he)]
  exact Element.length_content_le_of_decode? he

/-- Names are written exactly if all of them are ASCII and there is room for them in an encoding, and
then they are read back. Whatever is read is several lists of targets; it gives what each of the lists
gives alone, in order, and nothing depends on targets that are given by no name: where those that are
given by one stand in the same order, the same is read. -/
theorem decode_encode_and_flatten :
    (∀ names : List String,
      ((∃ bytes, toDer? names = some bytes) ↔
        (∀ name ∈ names, IsAscii name) ∧ size names ≤ maxLength) ∧
      ∀ bytes, toDer? names = some bytes → ofDer? bytes = some names) ∧
    (∀ bytes hosts, ofDer? bytes = some hosts →
      ∃ lists, (listsElement lists).encode = bytes ∧
        ∃ results, List.Forall₂
          (fun list result => ofDer? (listsElement [list]).encode = some result) lists results ∧
          results.flatten = hosts) ∧
    ∀ lists lists' hosts, ofDer? (listsElement lists).encode = some hosts →
      lists.flatten.filter isName = lists'.flatten.filter isName →
      (listsElement lists').encode.length ≤ maxLength →
      ofDer? (listsElement lists').encode = some hosts := by
  refine ⟨fun names => ⟨?_, fun bytes => ofDer?_toDer?⟩, fun bytes hosts h => ?_,
    fun lists lists' hosts h hfilter hlen => ?_⟩
  · simp only [toDer?_eq_some_iff, exists_and_left, exists_eq', and_true]
  · obtain ⟨lists, rfl, hlen⟩ := exists_lists_of_ofDer? h
    exact ⟨lists, rfl, exists_forall₂_of_ofDer? hlen h⟩
  · rw [ofDer?_encode ((Element.length_content_le _).trans hlen), ← hosts?_filter, ← hfilter,
      hosts?_filter, ← ofDer?_encode (length_content_le_of_ofDer? h), h]

/-- Two names with a group of targets in front of either, and a list between them. -/
def Sample.lists : List (List Element) :=
  let group := Element.explicit 1 (GeneralName.registered extensionId).toElement
  [[group, target "voms.example.org"], [], [group, target ""]]

theorem decode_encode_and_flatten_sample :
    (∃ bytes, toDer? ["voms.example.org", ""] = some bytes ∧
      ofDer? bytes = some ["voms.example.org", ""]) ∧
    ofDer? (listsElement Sample.lists).encode = some ["voms.example.org", ""] ∧
    ∃ lists results, (listsElement lists).encode = (listsElement Sample.lists).encode ∧
      List.Forall₂ (fun list result => ofDer? (listsElement [list]).encode = some result) lists
        results ∧ results.flatten = ["voms.example.org", ""] := by
  obtain ⟨hnames, hlists, hothers⟩ := decode_encode_and_flatten
  obtain ⟨hwritten, hread⟩ := hnames ["voms.example.org", ""]
  obtain ⟨bytes, hbytes⟩ := hwritten.2 (by decide +kernel)
  have hplain := hread bytes hbytes
  obtain ⟨-, rfl⟩ := toDer?_eq_some_iff.1 hbytes
  have hmixed := hothers _ Sample.lists _ hplain (by decide +kernel) (by decide +kernel)
  obtain ⟨lists, hencode, results, hresults⟩ := hlists _ _ hmixed
  exact ⟨⟨_, hbytes, hplain⟩, hmixed, lists, results, hencode, hresults⟩

/-- A name of the given length. -/
def Sample.nameOfLength (n : Nat) : String := .ofList (List.replicate n 'a')

theorem Sample.length_nameOfLength (n : Nat) : (nameOfLength n).length = n := by
  rw [nameOfLength, String.length_ofList, List.length_replicate]

theorem Sample.isAscii_nameOfLength (n : Nat) : IsAscii (nameOfLength n) := by
  intro c hc
  rw [nameOfLength, String.toList_ofList] at hc
  rw [List.eq_of_mem_replicate hc]
  decide

/-- A name of ASCII characters is not written if it alone is longer than any encoding. -/
theorem toDer?_nameOfLength :
    (∀ name ∈ [Sample.nameOfLength (maxLength + 1)], IsAscii name) ∧
      ¬∃ bytes, toDer? [Sample.nameOfLength (maxLength + 1)] = some bytes := by
  refine ⟨List.forall_mem_singleton.2 (Sample.isAscii_nameOfLength _), ?_⟩
  rintro ⟨bytes, hbytes⟩
  obtain ⟨⟨-, hsize⟩, -⟩ := toDer?_eq_some_iff.1 hbytes
  have hlen := (length_le_size (List.mem_singleton_self _)).trans hsize
  rw [Sample.length_nameOfLength] at hlen
  exact Nat.not_succ_le_self _ hlen

end Targets

end GridAuthz
