import GridAuthz.AttributeCertificate.Values

/-!
# Declared targets

What a target information extension declares, as its definition in ASN.1 has it: targets of any
kind, in any number of lists (`Targets.Declares`). Of these only names of hosts are read
(`Targets.mem_iff_of_ofDer?`).
-/

namespace GridAuthz

/-! ### Members of sequences -/

theorem mem_of_mapM {α β : Type} {f : α → Option β} {as : List α} {bs : List β}
    (h : as.mapM f = some bs) :
    (∀ a ∈ as, ∃ b ∈ bs, f a = some b) ∧ ∀ b ∈ bs, ∃ a ∈ as, f a = some b := by
  induction as generalizing bs with
  | nil =>
    cases h
    simp
  | cons a as ih =>
    simp only [List.mapM_cons, Option.bind_eq_bind, Option.bind_eq_some_iff, Option.pure_def,
      Option.some.injEq] at h
    obtain ⟨b, hb, bs, hbs, rfl⟩ := h
    obtain ⟨hread, hwritten⟩ := ih hbs
    rw [List.forall_mem_cons, List.forall_mem_cons]
    simp only [List.mem_cons, exists_eq_or_imp]
    exact ⟨⟨.inl hb, fun a ha => .inr (hread a ha)⟩, .inl hb, fun b hb => .inr (hwritten b hb)⟩

namespace Der.Element

variable {α : Type} {decode? : Element → Option α} {e : Element} {xs : List α}

theorem exists_of_sequenceOf? (h : e.sequenceOf? decode? = some xs) {fields : List Element}
    (hfields : e.sequence? = some fields) {f : Element} (hf : f ∈ fields) :
    ∃ x ∈ xs, decode? f = some x := by
  rw [sequenceOf?, hfields] at h
  exact (mem_of_mapM h).1 f hf

theorem exists_of_mem_sequenceOf? (h : e.sequenceOf? decode? = some xs) {x : α} (hx : x ∈ xs) :
    ∃ fields, e.sequence? = some fields ∧ ∃ f ∈ fields, decode? f = some x := by
  obtain ⟨fields, hfields, hxs⟩ := Option.bind_eq_some_iff.1 h
  exact ⟨fields, hfields, (mem_of_mapM hxs).2 x hx⟩

end Der.Element

namespace Targets

/-! ### What is declared -/

/-- A target stands in one of the lists of an extension. -/
def Declares (value : Bytes) (target : Der.Element) : Prop :=
  ∃ e lists list targets, Der.Element.decode? value = some e ∧ e.sequence? = some lists ∧
    list ∈ lists ∧ list.sequence? = some targets ∧ target ∈ targets

/-- A target is given by a name, and that is the name of a host or an identifier. -/
def IsHost (target : Der.Element) (host : String) : Prop :=
  target.tag = .contextConstructed 0 ∧ ∃ name text, target.explicit? = some name ∧
    (GeneralName.ofElement? name = some (.dns text) ∨
      GeneralName.ofElement? name = some (.uri text)) ∧ text.text = host

/-- A host is among the targets of an extension. -/
def DeclaresHost (value : Bytes) (host : String) : Prop :=
  ∃ target, Declares value target ∧ IsHost target host

/-! ### What is read -/

theorem host?_eq_some_iff {name : GeneralName} {host : String} :
    name.host? = some host ↔ ∃ text, (name = .dns text ∨ name = .uri text) ∧ text.text = host := by
  cases name <;> simp [GeneralName.host?]

theorem hostOfTarget?_eq_some_some_iff {target : Der.Element} {host : String} :
    hostOfTarget? target = some (some host) ↔ IsHost target host := by
  rw [hostOfTarget?, IsHost]
  by_cases htag : target.tag = .contextConstructed 0
  · rw [if_pos htag, and_iff_right htag]
    simp only [Option.map_eq_some_iff, Option.bind_eq_some_iff, host?_eq_some_iff]
    constructor
    · rintro ⟨read, ⟨name, hname, hread⟩, text, rfl | rfl, htext⟩
      · exact ⟨name, text, hname, .inl hread, htext⟩
      · exact ⟨name, text, hname, .inr hread, htext⟩
    · rintro ⟨name, text, hname, hread | hread, htext⟩
      · exact ⟨_, ⟨name, hname, hread⟩, text, .inl rfl, htext⟩
      · exact ⟨_, ⟨name, hname, hread⟩, text, .inr rfl, htext⟩
  · simp [htag]

theorem mem_iff_of_hostsOfElement? {list : Der.Element} {hosts : List String}
    (h : hostsOfElement? list = some hosts) {host : String} :
    host ∈ hosts ↔
      ∃ targets, list.sequence? = some targets ∧ ∃ target ∈ targets, IsHost target host := by
  obtain ⟨read, hread, rfl⟩ := Option.map_eq_some_iff.1 h
  rw [List.mem_filterMap]
  constructor
  · rintro ⟨read', hmem, rfl⟩
    obtain ⟨targets, htargets, target, htarget, hhost⟩ :=
      Der.Element.exists_of_mem_sequenceOf? hread hmem
    exact ⟨targets, htargets, target, htarget, hostOfTarget?_eq_some_some_iff.1 hhost⟩
  · rintro ⟨targets, htargets, target, htarget, hhost⟩
    obtain ⟨read', hmem, hread'⟩ := Der.Element.exists_of_sequenceOf? hread htargets htarget
    cases hread'.symm.trans (hostOfTarget?_eq_some_some_iff.2 hhost)
    exact ⟨some host, hmem, rfl⟩

/-- Exactly the hosts among the targets of an extension are read. -/
theorem mem_iff_of_ofDer? {value : Bytes} {hosts : List String} (h : ofDer? value = some hosts)
    {host : String} : host ∈ hosts ↔ DeclaresHost value host := by
  obtain ⟨e, he, h⟩ := Option.bind_eq_some_iff.1 h
  obtain ⟨read, hread, rfl⟩ := Option.map_eq_some_iff.1 h
  rw [List.mem_flatten]
  constructor
  · rintro ⟨hosts, hmem, hhost⟩
    obtain ⟨lists, hlists, list, hlist, hhosts⟩ := Der.Element.exists_of_mem_sequenceOf? hread hmem
    obtain ⟨targets, htargets, target, htarget, htargetHost⟩ :=
      (mem_iff_of_hostsOfElement? hhosts).1 hhost
    exact ⟨target, ⟨e, lists, list, targets, he, hlists, hlist, htargets, htarget⟩, htargetHost⟩
  · rintro ⟨target, ⟨e', lists, list, targets, he', hlists, hlist, htargets, htarget⟩, hhost⟩
    cases he.symm.trans he'
    obtain ⟨hosts, hmem, hhosts⟩ := Der.Element.exists_of_sequenceOf? hread hlists hlist
    exact ⟨hosts, hmem,
      (mem_iff_of_hostsOfElement? hhosts).2 ⟨targets, htargets, target, htarget, hhost⟩⟩

end Targets

end GridAuthz
