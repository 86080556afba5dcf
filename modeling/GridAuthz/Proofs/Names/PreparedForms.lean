import GridAuthz.Proofs.Names.Patterns
import GridAuthz.Proofs.Text.Stability

/-!
# Values written in prepared form

Values are compared in prepared form, so a value that is replaced by its prepared form is compared
by what preparing it twice gives. It agrees with the original value exactly if that is what
preparing it once gives (`NameAttribute.agrees_iff_isStable`), which need not be so: folding comes
last, and what a character folds to can compose with the mark behind it.
-/

namespace GridAuthz

open Text

/-! ### Texts -/

theorem Text.prepare_eq_iff {s t : String} :
    prepare s = prepare t ↔ prepareChars s.toList = prepareChars t.toList := by
  rw [prepare, prepare, String.ofList_inj]

theorem Text.toList_prepare (s : String) : (prepare s).toList = prepareChars s.toList := by
  rw [prepare, String.toList_ofList]

theorem Text.prepare_prepare_prepare (s : String) :
    prepare (prepare (prepare s)) = prepare (prepare s) := by
  rw [prepare_eq_iff, toList_prepare, toList_prepare]
  exact prepareChars_prepareChars_prepareChars s.toList

theorem Text.prepare_prepare_eq_iff (s : String) :
    prepare (prepare s) = prepare s ↔
      ∀ word ∈ preparedWords s.toList, foldCase (nfkc word) = word := by
  rw [prepare_eq_iff, toList_prepare]
  exact prepareChars_prepareChars_eq_iff

theorem Text.prepare_prepare_of_foldsApart {s : String}
    (h : FoldsApart (nfkc (s.toList.filterMap mapCharacter?))) :
    prepare (prepare s) = prepare s := by
  rw [prepare_eq_iff, toList_prepare]
  exact prepareChars_prepareChars_of_foldsApart h

/-! ### Attributes -/

namespace NameAttribute

variable {a b : NameAttribute}

/-- The second attribute is the first one with its value in prepared form. -/
structure PreparesTo (a b : NameAttribute) : Prop where
  /-- The type is the same. -/
  kind : b.kind = a.kind
  /-- The value is the prepared one. -/
  text : b.text? = a.text?.map prepare

/-- The value is a text that is prepared to the same when it is prepared twice. -/
def IsStable (a : NameAttribute) : Prop :=
  ∃ text, a.text? = some text ∧ prepare (prepare text) = prepare text

/-- An attribute agrees with its prepared form exactly if its value is stable. -/
theorem agrees_iff_isStable (h : a.PreparesTo b) : a.agrees b = true ↔ a.IsStable := by
  rw [agrees_iff, IsStable]
  constructor
  · rintro ⟨-, s, t, hs, ht, heq⟩
    rw [h.text, hs, Option.map_some, Option.some.injEq] at ht
    subst ht
    exact ⟨s, hs, heq.symm⟩
  · rintro ⟨s, hs, heq⟩
    exact ⟨h.kind.symm, s, prepare s, hs, by rw [h.text, hs, Option.map_some], heq.symm⟩

/-- What is in prepared form already is stable. -/
theorem PreparesTo.isStable (h : a.PreparesTo b) (htext : a.text?.isSome = true) : b.IsStable := by
  obtain ⟨text, hs⟩ := Option.isSome_iff_exists.1 htext
  exact ⟨prepare text, by rw [h.text, hs, Option.map_some], prepare_prepare_prepare text⟩

theorem forall₂_agrees_iff_isStable {as bs : List NameAttribute}
    (h : List.Forall₂ PreparesTo as bs) :
    List.Forall₂ (fun a b => a.agrees b = true) as bs ↔ ∀ a ∈ as, a.IsStable := by
  induction h with
  | nil => simp
  | cons hab _ ih => rw [List.forall₂_cons, List.forall_mem_cons, agrees_iff_isStable hab, ih]

end NameAttribute

/-! ### Names -/

namespace Name

variable {n m : Name}

/-- The second name is the first one with all its values in prepared form. -/
def PreparesTo (n m : Name) : Prop :=
  List.Forall₂ (fun p q => List.Forall₂ NameAttribute.PreparesTo p.members q.members) n.parts m.parts

/-- A name agrees with its prepared form exactly if all its values are stable. -/
theorem agrees_iff_isStable (h : n.PreparesTo m) :
    n.agrees m = true ↔ ∀ a ∈ n.attributes, a.IsStable := by
  rw [agrees_iff, attributes]
  rw [PreparesTo] at h
  generalize n.parts = ps, m.parts = qs at h ⊢
  induction h with
  | nil => simp
  | cons hpq _ ih =>
    rw [List.forall₂_cons, List.flatMap_cons, List.forall_mem_append, ih, partsAgree, allAgree_iff,
      NameAttribute.forall₂_agrees_iff_isStable hpq]

/-- A pattern that lists what a name is compared by matches the names whose attributes agree with
those of that name. -/
theorem isMatch_iff_forall₂ {p : NamePattern}
    (h : m.attributes.map NameAttribute.prepared? = p.attributes.map some) : p.isMatch n = true ↔
      List.Forall₂ (fun a b => a.agrees b = true) n.attributes m.attributes := by
  rw [NamePattern.isMatch_iff, NameAttribute.forall₂_agrees_iff]
  constructor
  · intro hn
    exact ⟨p.attributes, hn, h⟩
  · rintro ⟨listed, hn, hm⟩
    rw [hn, ← hm, h]

/-- The attributes of a name in prepared form are stable. -/
theorem PreparesTo.forall_isStable (h : n.PreparesTo m) (htexts : n.HasOnlyTexts) :
    ∀ b ∈ m.attributes, b.IsStable := by
  have hattributes := forall₂_attributes h
  rw [HasOnlyTexts] at htexts
  generalize n.attributes = as, m.attributes = bs at hattributes htexts ⊢
  induction hattributes with
  | nil => exact List.forall_mem_nil _
  | cons hab _ ih =>
    obtain ⟨htext, htexts⟩ := List.forall_mem_cons.1 htexts
    exact List.forall_mem_cons.2 ⟨hab.isStable htext, ih htexts⟩

/-- Preparing a text a third time changes nothing. Preparing it a second time changes nothing
exactly if no word of the prepared text changes by being normalized and folded, and so in particular
if in the normal form of the text no character folds next to one that combines with it. A name agrees
with its prepared form, and a pattern that lists the prepared form matches it, exactly if preparing
its values a second time changes nothing, and that is so of each name that is a prepared form
itself. -/
theorem agrees_preparesTo :
    (∀ s, prepare (prepare (prepare s)) = prepare (prepare s)) ∧
    (∀ s, prepare (prepare s) = prepare s ↔
      ∀ word ∈ preparedWords s.toList, foldCase (nfkc word) = word) ∧
    (∀ s : String, FoldsApart (nfkc (s.toList.filterMap mapCharacter?)) →
      prepare (prepare s) = prepare s) ∧
    (∀ n m : Name, n.PreparesTo m → (n.agrees m = true ↔ ∀ a ∈ n.attributes, a.IsStable)) ∧
    (∀ (n m : Name) (p : NamePattern), n.PreparesTo m →
      m.attributes.map NameAttribute.prepared? = p.attributes.map some →
      (p.isMatch n = true ↔ ∀ a ∈ n.attributes, a.IsStable)) ∧
    ∀ n m k : Name, n.HasOnlyTexts → n.PreparesTo m → m.PreparesTo k → m.agrees k = true := by
  refine ⟨prepare_prepare_prepare, prepare_prepare_eq_iff, fun s => prepare_prepare_of_foldsApart,
    fun n m => agrees_iff_isStable, ?_, ?_⟩
  · intro n m p h hlisted
    rw [isMatch_iff_forall₂ hlisted, NameAttribute.forall₂_agrees_iff_isStable (forall₂_attributes h)]
  · intro n m k htexts hm hk
    exact (agrees_iff_isStable hk).2 (hm.forall_isStable htexts)

end Name

namespace Sample

/-- A common name that is a sharp s with an acute accent behind it. -/
def sharpWithAccent : Name :=
  ⟨[.singleton ⟨AttributeType.commonName, ⟨.utf8String, [0xC3, 0x9F, 0xCC, 0x81]⟩⟩]⟩

/-- Its prepared form: the sharp s is folded to two letters. -/
def sharpFolded : Name :=
  ⟨[.singleton ⟨AttributeType.commonName,
    ⟨.utf8String, [0x20, 0x73, 0x73, 0xCC, 0x81, 0x20]⟩⟩]⟩

/-- The prepared form of that: the second letter has taken the accent. -/
def sharpComposed : Name :=
  ⟨[.singleton ⟨AttributeType.commonName, ⟨.utf8String, [0x20, 0x73, 0xC5, 0x9B, 0x20]⟩⟩]⟩

/-- A pattern for the prepared form. -/
def sharpPattern : NamePattern :=
  ⟨"/CN=ss\u0301", [(AttributeType.commonName, prepare " ss\u0301 ")]⟩

theorem preparesTo_sharpFolded : sharpWithAccent.PreparesTo sharpFolded :=
  .cons (.cons ⟨rfl, by decide +kernel⟩ .nil) .nil

theorem preparesTo_sharpComposed : sharpFolded.PreparesTo sharpComposed :=
  .cons (.cons ⟨rfl, by decide +kernel⟩ .nil) .nil

end Sample

theorem Name.agrees_preparesTo_sample :
    prepare (prepare "Straße") = prepare "Straße" ∧
      Sample.sharpFolded.agrees Sample.sharpComposed = true ∧
      ¬(∀ a ∈ Sample.sharpWithAccent.attributes, a.IsStable) ∧
      ¬Sample.sharpPattern.isMatch Sample.sharpWithAccent = true := by
  obtain ⟨-, -, hapart, hagrees, hmatches, hsettled⟩ := agrees_preparesTo
  have hunstable : ¬(∀ a ∈ Sample.sharpWithAccent.attributes, a.IsStable) := by
    rw [← hagrees _ _ Sample.preparesTo_sharpFolded]
    decide +kernel
  refine ⟨hapart _ ?_, ?_, hunstable, ?_⟩
  · have hnormal : nfkc ("Straße".toList.filterMap mapCharacter?) = "Straße".toList := by
      decide +kernel
    have hlow : ("Straße".toList.all fun c => c.toNat < 0x300) = true := by decide +kernel
    rw [hnormal]
    exact foldsApart_of_forall fun c hc =>
      startsAnew_of_lt (of_decide_eq_true (List.all_eq_true.1 hlow c hc))
  · exact hsettled Sample.sharpWithAccent _ _ (by decide +kernel) Sample.preparesTo_sharpFolded
      Sample.preparesTo_sharpComposed
  · rwa [hmatches _ _ _ Sample.preparesTo_sharpFolded (by decide +kernel)]

/-- A name and its prepared form, which neither agree nor are matched by one pattern. -/
theorem Sample.not_agrees_sharpFolded :
    prepare (prepare "ß\u0301") ≠ prepare "ß\u0301" ∧
      sharpWithAccent.PreparesTo sharpFolded ∧ sharpWithAccent.agrees sharpFolded = false ∧
      (NamePattern.parse "/CN=ss\u0301").toOption = some sharpPattern ∧
      sharpPattern.isMatch sharpFolded = true ∧ sharpPattern.isMatch sharpWithAccent = false :=
  ⟨by decide +kernel, preparesTo_sharpFolded, by decide +kernel, by decide +kernel,
    by decide +kernel, by decide +kernel⟩

end GridAuthz
