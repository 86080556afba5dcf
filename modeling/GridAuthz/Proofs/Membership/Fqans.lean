import GridAuthz.Membership.Fqan
import GridAuthz.Proofs.Text.Cutting

/-!
# The components of qualified names

A qualified name is a stem and the components behind its slashes. The normal form keeps the
components in front of the first capability, without a null role at their end
(`normalizeChars_eq`). That leaves out just the components that say nothing if these stand where
servers write them (`keptComponents_eq_filter_iff`).
-/

namespace GridAuthz.Fqan

open Text

/-! ### Components -/

/-- What stands in front of the first slash. -/
def stem (name : List Char) : List Char :=
  (name.splitOn '/').head (List.splitOn_ne_nil '/' name)

/-- The pieces behind the slashes. -/
def components (name : List Char) : List (List Char) := (name.splitOn '/').tail

/-- The text of a stem and components. -/
def slashed (stem : List Char) (components : List (List Char)) : List Char :=
  stem ++ components.flatMap ('/' :: ·)

theorem splitOn_eq (name : List Char) : name.splitOn '/' = stem name :: components name :=
  (List.cons_head_tail _).symm

theorem slash_notMem_stem (name : List Char) : '/' ∉ stem name :=
  notMem_of_mem_splitOn (List.head_mem _)

theorem slash_notMem_of_mem_components {name component : List Char}
    (h : component ∈ components name) : '/' ∉ component :=
  notMem_of_mem_splitOn (List.mem_of_mem_tail h)

/-- A name is its stem and its components. -/
theorem slashed_components (name : List Char) : slashed (stem name) (components name) = name :=
  (eq_append_flatMap_of_splitOn (splitOn_eq name)).symm

section Slashed

variable {word first : List Char} {cs ds : List (List Char)}

theorem splitOn_slashed (hfirst : '/' ∉ first) (hcs : ∀ c ∈ cs, '/' ∉ c) :
    (slashed first cs).splitOn '/' = first :: cs := by
  have hcons : '/' :: slashed first cs = '/' :: ['/'].intercalate (first :: cs) := by
    rw [cons_intercalate_eq_flatMap (List.cons_ne_nil first cs), List.flatMap_cons,
      List.cons_append, slashed]
  rw [(List.cons.inj hcons).2]
  exact List.splitOn_intercalate '/' (List.forall_mem_cons.2 ⟨hfirst, hcs⟩) (List.cons_ne_nil _ _)

theorem stem_slashed (hfirst : '/' ∉ first) (hcs : ∀ c ∈ cs, '/' ∉ c) :
    stem (slashed first cs) = first := by
  have h := splitOn_slashed hfirst hcs
  rw [splitOn_eq] at h
  exact (List.cons.inj h).1

theorem components_slashed (hfirst : '/' ∉ first) (hcs : ∀ c ∈ cs, '/' ∉ c) :
    components (slashed first cs) = cs := by
  have h := splitOn_slashed hfirst hcs
  rw [splitOn_eq] at h
  exact (List.cons.inj h).2

/-- A text is the text of one list of components only. -/
theorem slashed_inj (hfirst : '/' ∉ first) (hcs : ∀ c ∈ cs, '/' ∉ c) (hds : ∀ d ∈ ds, '/' ∉ d) :
    slashed first cs = slashed first ds ↔ cs = ds := by
  constructor
  · intro h
    rw [← components_slashed hfirst hcs, h, components_slashed hfirst hds]
  · rintro rfl
    rfl

/-- A word without a slash ends before the next component. -/
theorem prefix_append_flatMap_iff (hword : '/' ∉ word) :
    word <+: first ++ cs.flatMap ('/' :: ·) ↔ word <+: first := by
  constructor
  · intro h
    rcases List.prefix_or_prefix_of_prefix h (List.prefix_append first _) with h' | ⟨rest, rfl⟩
    · exact h'
    · rw [List.prefix_append_right_inj] at h
      cases rest with
      | nil => exact (List.append_nil first).symm ▸ List.prefix_rfl
      | cons x rest =>
        cases cs with
        | nil => simp at h
        | cons c cs =>
          rw [List.flatMap_cons, List.cons_append, List.cons_prefix_cons] at h
          exact absurd (h.1 ▸ hword) (by simp)
  · intro h
    exact h.trans (List.prefix_append first _)

/-- What holds no slash has no part that starts with one. -/
theorem cons_infix_append_iff (hfirst : '/' ∉ first) (rest : List Char) :
    '/' :: word <:+: first ++ rest ↔ '/' :: word <:+: rest := by
  induction first with
  | nil => rfl
  | cons x first ih =>
    obtain ⟨hx, hfirst⟩ := not_or.1 (mt List.mem_cons.2 hfirst)
    rw [List.cons_append, List.infix_cons_iff, List.cons_prefix_cons, ih hfirst]
    simp [hx]

/-- Behind a slash a word without one stands only at the beginning of a component. -/
theorem cons_infix_slashed_iff (hword : '/' ∉ word) (hfirst : '/' ∉ first)
    (hcs : ∀ c ∈ cs, '/' ∉ c) : '/' :: word <:+: slashed first cs ↔ ∃ c ∈ cs, word <+: c := by
  rw [slashed, cons_infix_append_iff hfirst]
  clear hfirst
  induction cs with
  | nil => simp
  | cons c cs ih =>
    obtain ⟨hc, hcs⟩ := List.forall_mem_cons.1 hcs
    rw [List.flatMap_cons, List.cons_append, List.infix_cons_iff, List.cons_prefix_cons,
      prefix_append_flatMap_iff hword, cons_infix_append_iff hc, ih hcs]
    simp

/-- A text ends in a slash and a word without one if that is its last component. -/
theorem cons_suffix_slashed_iff (hword : '/' ∉ word) (hfirst : '/' ∉ first)
    (hcs : ∀ c ∈ cs, '/' ∉ c) : '/' :: word <:+ slashed first cs ↔ cs.getLast? = some word := by
  have hwhole : ∀ v w : List Char, '/' ∉ w → '/' :: v <:+ '/' :: w → v = w := by
    intro v w hw h
    rcases List.suffix_cons_iff.1 h with h | h
    · exact (List.cons.inj h).2
    · exact absurd (h.subset (List.mem_cons_self ..)) hw
  rcases List.eq_nil_or_concat cs with rfl | ⟨before, last, hconcat⟩
  · have hmem : ¬ '/' :: word <:+ first := fun h => hfirst (h.subset (List.mem_cons_self ..))
    simpa [slashed] using hmem
  · rw [List.concat_eq_append] at hconcat
    subst hconcat
    have hlast : '/' ∉ last := hcs last (by simp)
    have htext : slashed first (before ++ [last]) = slashed first before ++ '/' :: last := by
      simp [slashed]
    rw [htext, List.getLast?_concat, Option.some.injEq]
    constructor
    · intro h
      rcases List.suffix_or_suffix_of_suffix h (List.suffix_append ..) with h | h
      · exact (hwhole _ _ hlast h).symm
      · exact hwhole _ _ hword h
    · rintro rfl
      exact List.suffix_append ..

end Slashed

/-! ### Components that say nothing -/

/-- What the component of a capability starts with. -/
def capabilityKey : List Char := "Capability=".toList

/-- The component of the role that says nothing. -/
def nullComponent : List Char := "Role=NULL".toList

/-- The component is a capability. -/
def isCapability (component : List Char) : Bool := capabilityKey.isPrefixOf component

/-- The component is a capability or the role that says nothing. -/
def saysNothing (component : List Char) : Bool :=
  isCapability component || component == nullComponent

theorem capability_eq : capability = '/' :: capabilityKey := by decide

theorem nullRole_eq : nullRole = '/' :: nullComponent := by decide

theorem slash_notMem_capabilityKey : '/' ∉ capabilityKey := by decide

theorem slash_notMem_nullComponent : '/' ∉ nullComponent := by decide

theorem isUnbordered_capability : IsUnbordered capability := by decide

theorem isCapability_nullComponent : isCapability nullComponent = false := by decide

theorem isCapability_iff {component : List Char} :
    isCapability component = true ↔ capabilityKey <+: component := List.isPrefixOf_iff_prefix

theorem isCapability_of_saysNothing_eq_false {component : List Char}
    (h : saysNothing component = false) : isCapability component = false :=
  (Bool.or_eq_false_iff.1 h).1

theorem ne_nullComponent_of_saysNothing_eq_false {component : List Char}
    (h : saysNothing component = false) : component ≠ nullComponent := by
  simpa using (Bool.or_eq_false_iff.1 h).2

/-! ### The components that are kept -/

/-- The components in front of the first capability. -/
def beforeCapability (cs : List (List Char)) : List (List Char) :=
  cs.takeWhile fun c => !isCapability c

/-- The components without a last one that is the null role. -/
def dropLastNull (cs : List (List Char)) : List (List Char) :=
  if cs.getLast? = some nullComponent then cs.dropLast else cs

/-- The components of the normal form. -/
def keptComponents (cs : List (List Char)) : List (List Char) := dropLastNull (beforeCapability cs)

section Kept

variable {first : List Char} {cs : List (List Char)}

theorem exists_eq_beforeCapability_append (cs : List (List Char)) :
    ∃ rest, cs = beforeCapability cs ++ rest ∧ ∀ c ∈ rest.head?, isCapability c = true := by
  refine ⟨cs.dropWhile fun c => !isCapability c, List.takeWhile_append_dropWhile.symm, ?_⟩
  intro c hc
  have hnot := List.head?_dropWhile_not (fun c => !isCapability c) cs
  rw [Option.mem_def.1 hc] at hnot
  simpa using hnot

theorem mem_of_mem_beforeCapability {c : List Char} (h : c ∈ beforeCapability cs) : c ∈ cs :=
  (List.takeWhile_prefix _).subset h

theorem isCapability_of_mem_beforeCapability {c : List Char} (h : c ∈ beforeCapability cs) :
    isCapability c = false := by
  simpa using List.mem_takeWhile_imp h

theorem dropLastNull_append_null (before : List (List Char)) :
    dropLastNull (before ++ [nullComponent]) = before := by
  rw [dropLastNull, if_pos List.getLast?_concat, List.dropLast_concat]

theorem dropLastNull_eq_self (h : cs.getLast? ≠ some nullComponent) : dropLastNull cs = cs :=
  if_neg h

/-- Nothing but a null role at the end is dropped. -/
theorem exists_eq_dropLastNull_append (cs : List (List Char)) :
    ∃ role, cs = dropLastNull cs ++ role ∧
      (role = [] ∧ cs.getLast? ≠ some nullComponent ∨ role = [nullComponent]) := by
  by_cases h : cs.getLast? = some nullComponent
  · obtain ⟨before, rfl⟩ := List.getLast?_eq_some_iff.1 h
    exact ⟨[nullComponent], by rw [dropLastNull_append_null], .inr rfl⟩
  · exact ⟨[], by rw [dropLastNull_eq_self h, List.append_nil], .inl ⟨rfl, h⟩⟩

theorem mem_of_mem_dropLastNull {c : List Char} (h : c ∈ dropLastNull cs) : c ∈ cs := by
  obtain ⟨role, hrole, -⟩ := exists_eq_dropLastNull_append cs
  rw [hrole]
  exact List.mem_append_left role h

theorem dropCapability_slashed (hfirst : '/' ∉ first) (hcs : ∀ c ∈ cs, '/' ∉ c) :
    dropCapability (slashed first cs) = slashed first (beforeCapability cs) := by
  have hne : capability ≠ [] := by decide
  obtain ⟨rest, hrest, hhead⟩ := exists_eq_beforeCapability_append cs
  have hbefore : ¬capability <:+: slashed first (beforeCapability cs) := by
    rw [capability_eq, cons_infix_slashed_iff slash_notMem_capabilityKey hfirst
      fun c hc => hcs c (mem_of_mem_beforeCapability hc)]
    rintro ⟨c, hc, hkey⟩
    have hnot := isCapability_of_mem_beforeCapability hc
    rw [isCapability_iff.2 hkey] at hnot
    exact Bool.noConfusion hnot
  cases rest with
  | nil =>
    rw [List.append_nil] at hrest
    rw [← hrest] at hbefore ⊢
    have hnone : cutAtText? capability (slashed first cs) = none := by
      rw [Option.eq_none_iff_forall_ne_some]
      rintro ⟨before, after⟩ hcut
      obtain ⟨htext, -⟩ := (cutAtText?_eq_some_iff hne isUnbordered_capability).1 hcut
      exact hbefore ⟨before, after, by rw [htext, List.append_assoc]⟩
    rw [dropCapability, hnone]
    rfl
  | cons c rest =>
    obtain ⟨value, rfl⟩ := isCapability_iff.1 (hhead c rfl)
    have hcut : cutAtText? capability (slashed first cs) =
        some (slashed first (beforeCapability cs), value ++ rest.flatMap ('/' :: ·)) := by
      rw [cutAtText?_eq_some_iff hne isUnbordered_capability]
      refine ⟨?_, hbefore⟩
      conv_lhs => rw [hrest]
      simp [slashed, capability_eq]
    rw [dropCapability, hcut]
    rfl

theorem dropNullRole_slashed (hfirst : '/' ∉ first) (hcs : ∀ c ∈ cs, '/' ∉ c) :
    dropNullRole (slashed first cs) = slashed first (dropLastNull cs) := by
  have hsuffix := cons_suffix_slashed_iff slash_notMem_nullComponent hfirst hcs
  rw [dropNullRole, dropEnding?, nullRole_eq]
  by_cases hlast : cs.getLast? = some nullComponent
  · rw [if_pos (List.isSuffixOf_iff_suffix.2 (hsuffix.2 hlast)), Option.getD_some]
    obtain ⟨before, rfl⟩ := List.getLast?_eq_some_iff.1 hlast
    have htext : slashed first (before ++ [nullComponent]) =
        slashed first before ++ '/' :: nullComponent := by simp [slashed]
    rw [dropLastNull_append_null, htext, List.length_append, Nat.add_sub_cancel_right,
      List.take_left]
  · rw [if_neg (mt List.isSuffixOf_iff_suffix.1 (mt hsuffix.1 hlast)), Option.getD_none,
      dropLastNull_eq_self hlast]

end Kept

/-- The normal form has the same stem and the components that are kept. -/
theorem normalizeChars_eq (name : List Char) :
    normalizeChars name = slashed (stem name) (keptComponents (components name)) := by
  have hstem := slash_notMem_stem name
  have hcomponents : ∀ c ∈ components name, '/' ∉ c := fun _ => slash_notMem_of_mem_components
  conv_lhs => rw [← slashed_components name]
  rw [normalizeChars, dropCapability_slashed hstem hcomponents,
    dropNullRole_slashed hstem fun c hc => hcomponents c (mem_of_mem_beforeCapability hc)]
  rfl

/-! ### The order in which servers write components -/

/-- First stand the components that say something, then possibly the null role, and then nothing
but a capability and further components that say nothing. -/
def IsServerOrder (cs : List (List Char)) : Prop :=
  ∃ named role rest, cs = named ++ (role ++ rest) ∧ (∀ c ∈ named, saysNothing c = false) ∧
    (role = [] ∨ role = [nullComponent]) ∧ (∀ c ∈ rest.head?, isCapability c = true) ∧
    ∀ c ∈ rest, saysNothing c = true

/-- The null role and what begins with a capability are left out. -/
theorem keptComponents_append {named role rest : List (List Char)}
    (hnamed : ∀ c ∈ named, saysNothing c = false) (hrole : role = [] ∨ role = [nullComponent])
    (hhead : ∀ c ∈ rest.head?, isCapability c = true) :
    keptComponents (named ++ (role ++ rest)) = named := by
  have hbefore : beforeCapability (named ++ (role ++ rest)) = named ++ role := by
    have hfront : ∀ c ∈ named ++ role, (!isCapability c) = true := by
      intro c hc
      rcases List.mem_append.1 hc with hc | hc
      · simp [isCapability_of_saysNothing_eq_false (hnamed c hc)]
      · rcases hrole with rfl | rfl
        · exact absurd hc List.not_mem_nil
        · simp [List.mem_singleton.1 hc, isCapability_nullComponent]
    rw [beforeCapability, ← List.append_assoc, List.takeWhile_append_of_pos hfront]
    cases rest with
    | nil => simp
    | cons c rest => simp [hhead c rfl]
  rw [keptComponents, hbefore]
  rcases hrole with rfl | rfl
  · rw [List.append_nil]
    exact dropLastNull_eq_self fun hlast =>
      ne_nullComponent_of_saysNothing_eq_false (hnamed _ (List.mem_of_getLast? hlast)) rfl
  · exact dropLastNull_append_null named

theorem keptComponents_eq_filter_iff {cs : List (List Char)} :
    keptComponents cs = cs.filter (fun c => !saysNothing c) ↔ IsServerOrder cs := by
  constructor
  · intro h
    obtain ⟨rest, hrest, hhead⟩ := exists_eq_beforeCapability_append cs
    obtain ⟨role, hrole, hnull⟩ := exists_eq_dropLastNull_append (beforeCapability cs)
    have hcs : cs = keptComponents cs ++ (role ++ rest) := by
      rw [← List.append_assoc, keptComponents, ← hrole, ← hrest]
    have hnamed : ∀ c ∈ keptComponents cs, saysNothing c = false := by
      intro c hc
      rw [h] at hc
      simpa using (List.mem_filter.1 hc).2
    -- What is filtered out of the kept components is nothing, so all that is left is dropped.
    have hfilter := congrArg (List.filter fun c => !saysNothing c) hcs
    rw [← h, List.filter_append, List.filter_eq_self.2 (by simpa using hnamed),
      List.self_eq_append_right, List.filter_append, List.append_eq_nil_iff] at hfilter
    exact ⟨_, role, rest, hcs, hnamed, hnull.imp And.left id, hhead,
      by simpa using hfilter.2⟩
  · rintro ⟨named, role, rest, rfl, hnamed, hrole, hhead, hrest⟩
    have hrole' : role.filter (fun c => !saysNothing c) = [] := by
      rcases hrole with rfl | rfl
      · rfl
      · decide
    rw [keptComponents_append hnamed hrole hhead, List.filter_append, List.filter_append, hrole',
      List.filter_eq_self.2 (by simpa using hnamed), List.filter_eq_nil_iff.2 (by simpa using hrest)]
    simp

theorem dropLastNull_dropLastNull_eq_iff {cs : List (List Char)} :
    dropLastNull (dropLastNull cs) = dropLastNull cs ↔ ¬[nullComponent, nullComponent] <:+ cs := by
  obtain ⟨role, hrole, ⟨rfl, hlast⟩ | rfl⟩ := exists_eq_dropLastNull_append cs
  · have hself := dropLastNull_eq_self hlast
    refine iff_of_true (by rw [hself, hself]) fun ⟨before, h⟩ => hlast ?_
    rw [← h, List.getLast?_append]
    rfl
  · generalize dropLastNull cs = before at hrole ⊢
    subst hrole
    have hpair : [nullComponent, nullComponent] <:+ before ++ [nullComponent] ↔
        before.getLast? = some nullComponent := by
      rw [List.getLast?_eq_some_iff]
      constructor
      · rintro ⟨rest, h⟩
        exact ⟨rest, (List.append_inj_left' (by simpa using h.symm) rfl)⟩
      · rintro ⟨rest, rfl⟩
        exact ⟨rest, by simp⟩
    rw [hpair]
    constructor
    · intro h hlast
      obtain ⟨rest, rfl⟩ := List.getLast?_eq_some_iff.1 hlast
      rw [dropLastNull_append_null] at h
      simp at h
    · exact dropLastNull_eq_self

section Normalize

variable (name : String)

theorem toList_normalize :
    (normalize name).toList =
      slashed (stem name.toList) (keptComponents (components name.toList)) := by
  rw [normalize, String.toList_ofList, normalizeChars_eq]

theorem slash_notMem_of_mem_kept {c : List Char}
    (h : c ∈ keptComponents (components name.toList)) : '/' ∉ c :=
  slash_notMem_of_mem_components (mem_of_mem_beforeCapability (mem_of_mem_dropLastNull h))

/-- A second time only a null role at the end can be dropped, as no capability is left. -/
theorem toList_normalize_normalize :
    (normalize (normalize name)).toList = slashed (stem name.toList)
      (dropLastNull (keptComponents (components name.toList))) := by
  have hstem := slash_notMem_stem name.toList
  have hkept : ∀ c ∈ keptComponents (components name.toList), '/' ∉ c :=
    fun _ => slash_notMem_of_mem_kept name
  have hbefore : beforeCapability (keptComponents (components name.toList)) =
      keptComponents (components name.toList) := by
    refine List.takeWhile_eq_self_iff.2 fun c hc => ?_
    rw [isCapability_of_mem_beforeCapability (mem_of_mem_dropLastNull hc), Bool.not_false]
  rw [toList_normalize (normalize name), toList_normalize name, stem_slashed hstem hkept,
    components_slashed hstem hkept, keptComponents, hbefore]

/-- Normalizing keeps the components in front of the first capability, without a null role at
their end. So it leaves out just the components that say nothing exactly where they stand in the
order of servers, and it changes nothing more the second time exactly where the components in front
of the first capability do not end in two null roles. -/
theorem normalize_eq_filter_iff :
    (normalize name).toList =
        slashed (stem name.toList) (keptComponents (components name.toList)) ∧
      ((normalize name).toList = slashed (stem name.toList)
          ((components name.toList).filter fun c => !saysNothing c) ↔
        IsServerOrder (components name.toList)) ∧
      (normalize (normalize name) = normalize name ↔
        ¬[nullComponent, nullComponent] <:+ beforeCapability (components name.toList)) := by
  have hstem := slash_notMem_stem name.toList
  have hkept : ∀ c ∈ keptComponents (components name.toList), '/' ∉ c :=
    fun _ => slash_notMem_of_mem_kept name
  have hfilter : ∀ c ∈ (components name.toList).filter fun c => !saysNothing c, '/' ∉ c :=
    fun c hc => slash_notMem_of_mem_components (List.mem_filter.1 hc).1
  have hagain : ∀ c ∈ dropLastNull (keptComponents (components name.toList)), '/' ∉ c :=
    fun c hc => hkept c (mem_of_mem_dropLastNull hc)
  refine ⟨toList_normalize name, ?_, ?_⟩
  · rw [toList_normalize, slashed_inj hstem hkept hfilter, keptComponents_eq_filter_iff]
  · rw [← String.toList_inj, toList_normalize_normalize, toList_normalize,
      slashed_inj hstem hagain hkept, keptComponents, dropLastNull_dropLastNull_eq_iff]

/-- A role behind a capability is lost. -/
example : normalize "/vo/Capability=NULL/Role=production" = "/vo" := by decide

end Normalize

end GridAuthz.Fqan
