import Mathlib.Data.List.Induction
import Mathlib.Data.Set.List
import GridAuthz.Membership.Reading
import GridAuthz.Proofs.Der.DirectoryStrings
import GridAuthz.Proofs.Steps

/-!
# What the extensions of an attribute certificate hold

Each extension is read for itself: it replaces what one field of the details held before and leaves
the others as they are (`Membership.addExtension_eq_ok_iff`). So all of them can be read if each one
can (`Membership.exists_readDetails_iff`), and each field comes from the last extension that holds it
(`Membership.lastHolds_of_readDetails`).
-/

namespace GridAuthz

/-! ### Texts -/

/-- A list is written as several things one by one if each member is written as one of them. -/
theorem exists_map_eq_iff {α γ : Type} {write : γ → α} {as : List α} :
    (∃ cs : List γ, cs.map write = as) ↔ ∀ a ∈ as, ∃ c, write c = a := by
  have hrange := Set.ext_iff.1 (Set.range_list_map write) as
  simpa only [Set.mem_range, Set.mem_ofPred_eq] using hrange

/-- The bytes are UTF-8. -/
def Bytes.IsText (bytes : Bytes) : Prop := ∃ text, ofText text = bytes

theorem Bytes.toText?_eq_some_iff {bytes : Bytes} {text : String} :
    toText? bytes = some text ↔ ofText text = bytes := by
  constructor
  · exact ofText_of_toText?
  · rintro rfl
    exact toText?_ofText text

/-- All three parts of a generic attribute are UTF-8. -/
structure GenericTag.IsText (t : GenericTag) : Prop where
  /-- The name is. -/
  name : t.name.IsText
  /-- The value is. -/
  value : t.value.IsText
  /-- What it is about is. -/
  qualifier : t.qualifier.IsText

/-- A generic attribute as it is encoded. -/
def GenericAttribute.toTag (a : GenericAttribute) : GenericTag :=
  ⟨Bytes.ofText a.name, Bytes.ofText a.value, Bytes.ofText a.context⟩

theorem GenericTag.isText_iff {t : GenericTag} : t.IsText ↔ ∃ a : GenericAttribute, a.toTag = t := by
  constructor
  · rintro ⟨⟨name, hname⟩, ⟨value, hvalue⟩, context, hcontext⟩
    refine ⟨⟨name, value, context⟩, ?_⟩
    rw [GenericAttribute.toTag, hname, hvalue, hcontext]
  · rintro ⟨a, rfl⟩
    exact ⟨⟨_, rfl⟩, ⟨_, rfl⟩, ⟨_, rfl⟩⟩

namespace Membership

theorem require_eq_ok_iff {α : Type} {value : Option α} {fault : Fault} {a : α} :
    require value fault = .ok a ↔ value = some a := by
  cases value <;> simp [require]

theorem genericAttribute_eq_ok_iff {t : GenericTag} {a : GenericAttribute} :
    genericAttribute t = .ok a ↔ a.toTag = t := by
  obtain ⟨name, value, qualifier⟩ := t
  simp only [genericAttribute, bind_eq_ok_iff, require_eq_ok_iff, pure_eq_ok_iff,
    Bytes.toText?_eq_some_iff, GenericAttribute.toTag, GenericTag.mk.injEq]
  constructor
  · rintro ⟨_, rfl, _, rfl, _, rfl, rfl⟩
    exact ⟨rfl, rfl, rfl⟩
  · rintro ⟨rfl, rfl, rfl⟩
    exact ⟨_, rfl, _, rfl, _, rfl, rfl⟩

theorem mapM_genericAttribute_eq_ok_iff {ts : List GenericTag} {as : List GenericAttribute} :
    ts.mapM genericAttribute = .ok as ↔ as.map GenericAttribute.toTag = ts := by
  have hstep : ∀ (t : GenericTag) (a : GenericAttribute),
      genericAttribute t = .ok a ↔ ∃ a' : GenericAttribute, a'.toTag = t ∧ id a' = a := by
    intro t a
    simp [genericAttribute_eq_ok_iff]
  simp [mapM_eq_ok_iff hstep]

/-! ### One extension -/

/-- The generic attributes are those of all lists of an extension, in order. -/
def HoldsAttributes (value : Bytes) (attributes : List GenericAttribute) : Prop :=
  ∃ lists, TagList.listsOfDer? value = some lists ∧
    attributes.map GenericAttribute.toTag = lists.flatMap (·.tags)

/-- The extensions that are read. -/
def readExtensions : List Oid :=
  [AuthorityCertificates.extensionId, TagList.extensionId, Targets.extensionId]

variable {d d' : Details} {x : Extension}

theorem addExtension_of_chain (hx : x.id = AuthorityCertificates.extensionId) :
    addExtension d x = .ok d' ↔
      ∃ chain, AuthorityCertificates.ofDer? x.value = some chain ∧
        { d with authorityChain := chain } = d' := by
  simp only [addExtension, if_pos hx, bind_eq_ok_iff, require_eq_ok_iff, pure_eq_ok_iff]

theorem addExtension_of_tags (hx : x.id = TagList.extensionId) :
    addExtension d x = .ok d' ↔
      ∃ attributes, HoldsAttributes x.value attributes ∧
        { d with genericAttributes := attributes } = d' := by
  have hchain : x.id ≠ AuthorityCertificates.extensionId := by rw [hx]; decide
  simp only [addExtension, if_neg hchain, if_pos hx, bind_eq_ok_iff, require_eq_ok_iff,
    pure_eq_ok_iff, mapM_genericAttribute_eq_ok_iff, HoldsAttributes]
  constructor
  · rintro ⟨lists, hlists, attributes, hattributes, hd⟩
    exact ⟨attributes, ⟨lists, hlists, hattributes⟩, hd⟩
  · rintro ⟨attributes, ⟨lists, hlists, hattributes⟩, hd⟩
    exact ⟨lists, hlists, attributes, hattributes, hd⟩

theorem addExtension_of_targets (hx : x.id = Targets.extensionId) :
    addExtension d x = .ok d' ↔
      ∃ hosts, Targets.ofDer? x.value = some hosts ∧ { d with targets := hosts } = d' := by
  have hchain : x.id ≠ AuthorityCertificates.extensionId := by rw [hx]; decide
  have htags : x.id ≠ TagList.extensionId := by rw [hx]; decide
  simp only [addExtension, if_neg hchain, if_neg htags, if_pos hx, bind_eq_ok_iff,
    require_eq_ok_iff, pure_eq_ok_iff]

theorem addExtension_of_notMem (hx : x.id ∉ readExtensions) :
    addExtension d x = .ok d' ↔ (x.critical = true → x.id ∈ ignoredExtensions) ∧ d = d' := by
  simp only [readExtensions, List.mem_cons, List.not_mem_nil, or_false, not_or] at hx
  rw [addExtension, if_neg hx.1, if_neg hx.2.1, if_neg hx.2.2]
  by_cases hcritical : x.critical = true <;> by_cases hignored : x.id ∈ ignoredExtensions <;>
    simp [hcritical, hignored]

theorem mem_readExtensions_iff {id : Oid} :
    id ∈ readExtensions ↔ id = AuthorityCertificates.extensionId ∨ id = TagList.extensionId ∨
      id = Targets.extensionId := by
  simp [readExtensions]

end Membership

/-- An extension can be read: its content, if it is one that is read; any other may only be critical if
it is one of those that are known. -/
structure Extension.IsReadable (x : Extension) : Prop where
  /-- The certificates of the authority can be decoded. -/
  chain : x.id = AuthorityCertificates.extensionId →
    ∃ chain, AuthorityCertificates.ofDer? x.value = some chain
  /-- The lists of generic attributes can be decoded, and all their parts are text. -/
  attributes : x.id = TagList.extensionId →
    ∃ lists, TagList.listsOfDer? x.value = some lists ∧ ∀ l ∈ lists, ∀ t ∈ l.tags, t.IsText
  /-- The targets can be decoded. -/
  targets : x.id = Targets.extensionId → ∃ hosts, Targets.ofDer? x.value = some hosts
  /-- What is critical is known. -/
  known : x.critical = true → x.id ∈ Membership.readExtensions ++ Membership.ignoredExtensions

namespace Membership

theorem exists_holdsAttributes_iff {value : Bytes} :
    (∃ attributes, HoldsAttributes value attributes) ↔
      ∃ lists, TagList.listsOfDer? value = some lists ∧ ∀ l ∈ lists, ∀ t ∈ l.tags, t.IsText := by
  have htags : ∀ lists : List TagList,
      (∃ attributes : List GenericAttribute,
        attributes.map GenericAttribute.toTag = lists.flatMap (·.tags)) ↔
          ∀ l ∈ lists, ∀ t ∈ l.tags, t.IsText := by
    intro lists
    simp only [exists_map_eq_iff, ← GenericTag.isText_iff, List.forall_mem_flatMap]
  constructor
  · rintro ⟨attributes, lists, hlists, heq⟩
    exact ⟨lists, hlists, (htags lists).1 ⟨attributes, heq⟩⟩
  · rintro ⟨lists, hlists, htext⟩
    obtain ⟨attributes, heq⟩ := (htags lists).2 htext
    exact ⟨attributes, lists, hlists, heq⟩

theorem exists_addExtension_iff : (∃ d', addExtension d x = .ok d') ↔ x.IsReadable := by
  constructor
  · rintro ⟨d', h⟩
    refine ⟨fun hx => ?_, fun hx => ?_, fun hx => ?_, fun hcritical => ?_⟩
    · obtain ⟨chain, hchain, -⟩ := (addExtension_of_chain hx).1 h
      exact ⟨chain, hchain⟩
    · obtain ⟨attributes, hattributes, -⟩ := (addExtension_of_tags hx).1 h
      exact exists_holdsAttributes_iff.1 ⟨attributes, hattributes⟩
    · obtain ⟨hosts, hhosts, -⟩ := (addExtension_of_targets hx).1 h
      exact ⟨hosts, hhosts⟩
    · by_cases hx : x.id ∈ readExtensions
      · exact List.mem_append_left _ hx
      · exact List.mem_append_right _ (((addExtension_of_notMem hx).1 h).1 hcritical)
  · rintro ⟨hchain, hattributes, htargets, hknown⟩
    by_cases hx : x.id ∈ readExtensions
    · rcases mem_readExtensions_iff.1 hx with hx | hx | hx
      · obtain ⟨chain, hchain⟩ := hchain hx
        exact ⟨_, (addExtension_of_chain hx).2 ⟨chain, hchain, rfl⟩⟩
      · obtain ⟨attributes, hattributes⟩ := exists_holdsAttributes_iff.2 (hattributes hx)
        exact ⟨_, (addExtension_of_tags hx).2 ⟨attributes, hattributes, rfl⟩⟩
      · obtain ⟨hosts, hhosts⟩ := htargets hx
        exact ⟨_, (addExtension_of_targets hx).2 ⟨hosts, hhosts, rfl⟩⟩
    · exact ⟨d, (addExtension_of_notMem hx).2
        ⟨fun hcritical => (List.mem_append.1 (hknown hcritical)).resolve_left hx, rfl⟩⟩

section Replacing

variable {β : Type} {id : Oid} {Holds : Bytes → List β → Prop}

/-- An extension with the given meaning replaces a field by what it holds, any other leaves it as it
is. -/
def Replaces (id : Oid) (Holds : Bytes → List β → Prop) (x : Extension) (before after : List β) :
    Prop :=
  if x.id = id then Holds x.value after else after = before

/-- Each field is replaced by the extension that it comes from. -/
theorem replaces_of_addExtension (h : addExtension d x = .ok d') :
    Replaces AuthorityCertificates.extensionId
        (fun value chain => AuthorityCertificates.ofDer? value = some chain) x
        d.authorityChain d'.authorityChain ∧
      Replaces TagList.extensionId HoldsAttributes x d.genericAttributes d'.genericAttributes ∧
      Replaces Targets.extensionId (fun value hosts => Targets.ofDer? value = some hosts) x
        d.targets d'.targets := by
  have hchainTags : AuthorityCertificates.extensionId ≠ TagList.extensionId := by decide
  have hchainTargets : AuthorityCertificates.extensionId ≠ Targets.extensionId := by decide
  have htagsTargets : TagList.extensionId ≠ Targets.extensionId := by decide
  by_cases hx : x.id ∈ readExtensions
  · rcases mem_readExtensions_iff.1 hx with hx | hx | hx
    · obtain ⟨chain, hchain, rfl⟩ := (addExtension_of_chain hx).1 h
      simp [Replaces, hx, hchainTags, hchainTargets, hchain]
    · obtain ⟨attributes, hattributes, rfl⟩ := (addExtension_of_tags hx).1 h
      simp [Replaces, hx, hchainTags.symm, htagsTargets, hattributes]
    · obtain ⟨hosts, hhosts, rfl⟩ := (addExtension_of_targets hx).1 h
      simp [Replaces, hx, hchainTargets.symm, htagsTargets.symm, hhosts]
  · obtain ⟨-, rfl⟩ := (addExtension_of_notMem hx).1 h
    simp only [mem_readExtensions_iff, not_or] at hx
    simp [Replaces, hx]

/-! ### All extensions -/

theorem exists_foldlM_addExtension_iff {extensions : List Extension} :
    (∃ d', extensions.foldlM addExtension d = .ok d') ↔ ∀ x ∈ extensions, x.IsReadable := by
  induction extensions generalizing d with
  | nil => simp [pure_eq_ok_iff]
  | cons x extensions ih =>
    simp only [List.foldlM_cons, bind_eq_ok_iff, List.forall_mem_cons]
    rw [← exists_addExtension_iff (d := d)]
    constructor
    · rintro ⟨d', middle, hx, hrest⟩
      exact ⟨⟨middle, hx⟩, ih.1 ⟨d', hrest⟩⟩
    · rintro ⟨⟨middle, hx⟩, hrest⟩
      obtain ⟨d', hd'⟩ := ih.2 hrest
      exact ⟨d', middle, hx, hd'⟩

theorem exists_readDetails_iff {extensions : List Extension} :
    (∃ d, readDetails extensions = .ok d) ↔ ∀ x ∈ extensions, x.IsReadable :=
  exists_foldlM_addExtension_iff

/-- The values are those that the last extension with the given meaning holds, and there are none
without such an extension. -/
def LastHolds (id : Oid) (Holds : Bytes → List β → Prop) (extensions : List Extension)
    (values : List β) : Prop :=
  match (Extension.allWith id extensions).getLast? with
  | some x => Holds x.value values
  | none => values = []

theorem lastHolds_append_singleton_iff {extensions : List Extension} {values : List β} :
    LastHolds id Holds (extensions ++ [x]) values ↔
      if x.id = id then Holds x.value values else LastHolds id Holds extensions values := by
  rw [LastHolds, Extension.allWith, List.filter_append]
  split_ifs with hx
  · simp [hx]
  · simp [hx, LastHolds, Extension.allWith]

/-- A field that each extension with a meaning replaces comes from the last of them. -/
theorem lastHolds_of_readDetails (field : Details → List β) (hnil : field ⟨[], [], []⟩ = [])
    (hstep : ∀ {d d' : Details} {x : Extension}, addExtension d x = .ok d' →
      Replaces id Holds x (field d) (field d'))
    {extensions : List Extension} (h : readDetails extensions = .ok d) :
    LastHolds id Holds extensions (field d) := by
  induction extensions using List.reverseRecOn generalizing d with
  | nil =>
    cases h
    exact hnil
  | append_singleton extensions x ih =>
    rw [readDetails, List.foldlM_append, bind_eq_ok_iff] at h
    obtain ⟨before, hbefore, h⟩ := h
    simp only [List.foldlM_cons, List.foldlM_nil, bind_pure] at h
    have hreplaces := hstep h
    rw [lastHolds_append_singleton_iff]
    rw [Replaces] at hreplaces
    split_ifs at hreplaces ⊢ with hx
    · exact hreplaces
    · exact hreplaces ▸ ih hbefore

end Replacing

/-- What the extensions hold, field by field. -/
theorem lastHolds_details {extensions : List Extension} (h : readDetails extensions = .ok d) :
    LastHolds AuthorityCertificates.extensionId
        (fun value chain => AuthorityCertificates.ofDer? value = some chain) extensions
        d.authorityChain ∧
      LastHolds TagList.extensionId HoldsAttributes extensions d.genericAttributes ∧
      LastHolds Targets.extensionId (fun value hosts => Targets.ofDer? value = some hosts) extensions
        d.targets :=
  ⟨lastHolds_of_readDetails Details.authorityChain rfl
      (fun h => (replaces_of_addExtension h).1) h,
    lastHolds_of_readDetails Details.genericAttributes rfl
      (fun h => (replaces_of_addExtension h).2.1) h,
    lastHolds_of_readDetails Details.targets rfl (fun h => (replaces_of_addExtension h).2.2) h⟩

end Membership

end GridAuthz
