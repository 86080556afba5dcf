import Mathlib.Data.List.Forall2
import GridAuthz.Lsc
import GridAuthz.Proofs.Steps
import GridAuthz.Proofs.Text.Lines

/-!
# Layouts of LSC files

The lines of an LSC file are blank lines and comments, separators, and names. Laid out in lines
(`LscFile.IsLayout`), the names of a chain stand one below the other and there are separators between two
chains. A text is read exactly if it is laid out like this and there is a chain in it, and what is read
are these chains (`LscFile.read_eq_ok_iff_isLayout`).
-/

namespace GridAuthz

open Text

/-! ### Patterns and white space -/

namespace NamePattern

theorem parse_congr {s t : String} (h : trimChars s.toList = trimChars t.toList) :
    parse s = parse t := by
  have htrim : Text.trim s = Text.trim t := congrArg String.ofList h
  rw [parse, parse, htrim]

/-- A pattern starts with a slash. -/
theorem head?_trimChars_of_parse {text : String} {p : NamePattern} (h : parse text = .ok p) :
    (trimChars text.toList).head? = some '/' := by
  have hsource : (Text.trim text).toList = trimChars text.toList := String.toList_ofList
  rw [parse] at h
  dsimp only at h
  rw [hsource] at h
  split at h
  case h_1 body hbody => rw [hbody, List.head?_cons]
  case h_2 => cases h

end NamePattern

namespace LscFile

/-! ### Lines -/

/-- The first character that is no white space is `c`. -/
def StartsWith (c : Char) (line : List Char) : Prop :=
  ∃ before after, IsBlank before ∧ line = before ++ c :: after

/-- A blank line or a comment. -/
def IsIgnored (line : List Char) : Prop := IsBlank line ∨ StartsWith '#' line

/-- A line that ends a chain. -/
def IsSeparator (line : List Char) : Prop := StartsWith '-' line

/-- A line has a name on it, with white space around it. -/
def Writes (line : List Char) (p : NamePattern) : Prop :=
  ∃ (before after : List Char) (name : String), IsBlank before ∧ IsBlank after ∧
    line = before ++ name.toList ++ after ∧ NamePattern.parse name = .ok p

section Line

variable {line : List Char}

theorem isBlank_iff : IsBlank line ↔ (trimChars line).head? = none := by
  rw [List.head?_eq_none_iff, trimChars_eq_nil_iff]

theorem startsWith_iff {c : Char} (h : isWhitespace c = false) :
    StartsWith c line ↔ (trimChars line).head? = some c := by
  rw [head?_trimChars_eq_some_iff, and_iff_right h, StartsWith]

theorem isIgnored_iff :
    IsIgnored line ↔ (trimChars line).head? = none ∨ (trimChars line).head? = some '#' := by
  rw [IsIgnored, isBlank_iff, startsWith_iff (by decide)]

theorem isSeparator_iff : IsSeparator line ↔ (trimChars line).head? = some '-' :=
  startsWith_iff (by decide)

theorem writes_iff {p : NamePattern} :
    Writes line p ↔ NamePattern.parse (String.ofList (trimChars line)) = .ok p := by
  constructor
  · rintro ⟨before, after, name, hbefore, hafter, rfl, hp⟩
    rw [← hp]
    refine NamePattern.parse_congr ?_
    rw [String.toList_ofList, trimChars_trimChars, trimChars_append_blanks hbefore hafter]
  · intro h
    obtain ⟨before, after, hbefore, hafter, hline⟩ := exists_eq_trimChars line
    exact ⟨before, after, _, hbefore, hafter, by rw [String.toList_ofList, ← hline], h⟩

theorem head?_of_writes {p : NamePattern} (h : Writes line p) :
    (trimChars line).head? = some '/' := by
  have hhead := NamePattern.head?_trimChars_of_parse (writes_iff.1 h)
  rwa [String.toList_ofList, trimChars_trimChars] at hhead

theorem read_eq_blank_iff : Line.read line = .ok .blank ↔ IsIgnored line := by
  rw [isIgnored_iff, Line.read]
  cases (trimChars line).head? with
  | none => simp
  | some c =>
    dsimp only
    split_ifs with hhash hdash
    · simp [hhash]
    · simp [hhash]
    · cases NamePattern.parse (String.ofList (trimChars line)) <;> simp [hhash]

theorem read_eq_separator_iff : Line.read line = .ok .separator ↔ IsSeparator line := by
  rw [isSeparator_iff, Line.read]
  cases (trimChars line).head? with
  | none => simp
  | some c =>
    dsimp only
    split_ifs with hhash hdash
    · simp [hhash]
    · simp [hdash]
    · cases NamePattern.parse (String.ofList (trimChars line)) <;> simp [hdash]

theorem read_eq_name_iff {p : NamePattern} : Line.read line = .ok (.name p) ↔ Writes line p := by
  have hslash : Writes line p → (trimChars line).head? = some '/' := head?_of_writes
  rw [writes_iff] at hslash ⊢
  rw [Line.read]
  cases hhead : (trimChars line).head? with
  | none => simp_all
  | some c =>
    dsimp only
    split_ifs with hhash hdash
    · simp_all
    · simp_all
    · cases NamePattern.parse (String.ofList (trimChars line)) <;> simp

/-- A line that is neither ignored nor a separator nor a name is refused. -/
theorem exists_read_eq_error_iff : (∃ e, Line.read line = .error e) ↔
    ¬IsIgnored line ∧ ¬IsSeparator line ∧ ∀ p, ¬Writes line p := by
  simp only [← read_eq_blank_iff, ← read_eq_separator_iff, ← read_eq_name_iff]
  cases Line.read line with
  | error e => simp
  | ok kind => cases kind <;> simp

end Line

theorem mapM_read_map_trimChars (lines : List (List Char)) :
    (lines.map trimChars).mapM Line.read = lines.mapM Line.read := by
  induction lines with
  | nil => rfl
  | cons line lines ih =>
    have hline : Line.read (trimChars line) = Line.read line := by
      rw [Line.read, Line.read, trimChars_trimChars]
    rw [List.map_cons, List.mapM_cons, List.mapM_cons, hline, ih]

/-- Each line means what stands in its place. -/
def Mean (lines : List (List Char)) (kinds : List Line) : Prop :=
  List.Forall₂ (fun line kind => Line.read line = .ok kind) lines kinds

theorem mapM_read_eq_ok_iff {lines : List (List Char)} {kinds : List Line} :
    lines.mapM Line.read = .ok kinds ↔ Mean lines kinds := by
  induction lines generalizing kinds with
  | nil =>
    rw [List.mapM_nil, pure_eq_ok_iff, Mean, List.forall₂_nil_left_iff]
    exact eq_comm
  | cons line lines ih =>
    simp only [List.mapM_cons, bind_eq_ok_iff, pure_eq_ok_iff, ih, Mean,
      List.forall₂_cons_left_iff]
    grind

/-! ### Groups -/

section Groups

variable {kinds : List Line}

theorem groupLines_append_separator (kinds kinds' : List Line) :
    groupLines (kinds ++ .separator :: kinds') = groupLines kinds ++ groupLines kinds' := by
  simp [groupLines, List.splitOn_append_cons_self]

theorem groupLines_of_notMem (h : .separator ∉ kinds) :
    groupLines kinds = if kinds.filterMap Line.name? = [] then []
      else [⟨kinds.filterMap Line.name?⟩] := by
  rw [groupLines, List.splitOn_eq_singleton h]
  split
  case isTrue hnil => simp [hnil]
  case isFalse hnil => simp [hnil]

theorem groupLines_cons_of_name?_eq_none {kind : Line} (h : kind.name? = none)
    (kinds : List Line) : groupLines (kind :: kinds) = groupLines kinds := by
  cases kind with
  | blank =>
    simp only [groupLines, List.splitOn_cons_eq_if_modifyHead]
    cases hsplit : kinds.splitOn .separator with
    | nil => exact absurd hsplit (List.splitOn_ne_nil _ _)
    | cons group groups =>
      have hgroup : (Line.blank :: group).filterMap Line.name? = group.filterMap Line.name? := rfl
      simp [hgroup]
  | separator => exact groupLines_append_separator [] kinds
  | name p => simp [Line.name?] at h

theorem groupLines_append_of_name?_eq_none {kinds : List Line}
    (h : ∀ kind ∈ kinds, kind.name? = none) (kinds' : List Line) :
    groupLines (kinds ++ kinds') = groupLines kinds' := by
  induction kinds with
  | nil => rfl
  | cons kind kinds ih =>
    obtain ⟨hkind, hkinds⟩ := List.forall_mem_cons.1 h
    rw [List.cons_append, groupLines_cons_of_name?_eq_none hkind, ih hkinds]

end Groups

/-! ### Layouts -/

/-- Lines that have no names on them: separators, blank lines and comments. -/
def IsGap (lines : List (List Char)) : Prop := ∀ line ∈ lines, IsIgnored line ∨ IsSeparator line

/-- Names one below the other, with blank lines and comments anywhere. -/
inductive IsBlock : List (List Char) → List NamePattern → Prop where
  /-- No lines. -/
  | nil : IsBlock [] []
  /-- A blank line or a comment. -/
  | ignored {line : List Char} {lines : List (List Char)} {names : List NamePattern} :
    IsIgnored line → IsBlock lines names → IsBlock (line :: lines) names
  /-- A name. -/
  | name {line : List Char} {lines : List (List Char)} {p : NamePattern}
    {names : List NamePattern} :
    Writes line p → IsBlock lines names → IsBlock (line :: lines) (p :: names)

/-- Lines that list chains. Before each chain there may be separators, blank lines and comments; between
two chains there is a separator. -/
inductive IsLayout : List (List Char) → List (List NamePattern) → Prop where
  /-- No chain. -/
  | gap {lines : List (List Char)} : IsGap lines → IsLayout lines []
  /-- One chain. -/
  | last {gap block : List (List Char)} {names : List NamePattern} :
    IsGap gap → IsBlock block names → names ≠ [] → IsLayout (gap ++ block) [names]
  /-- A chain, a separator and what follows. -/
  | cons {gap block rest : List (List Char)} {separator : List Char} {names : List NamePattern}
    {chains : List (List NamePattern)} :
    IsGap gap → IsBlock block names → names ≠ [] → IsSeparator separator → IsLayout rest chains →
      IsLayout (gap ++ block ++ separator :: rest) (names :: chains)

section Layout

variable {lines block gap : List (List Char)} {kinds blockKinds : List Line}
  {names : List NamePattern} {chains : List (List NamePattern)}

theorem IsGap.exists_mean (h : IsGap gap) :
    ∃ kinds, Mean gap kinds ∧ ∀ kind ∈ kinds, kind.name? = none := by
  induction gap with
  | nil => exact ⟨[], .nil, List.forall_mem_nil _⟩
  | cons line gap ih =>
    obtain ⟨hline, hgap⟩ := List.forall_mem_cons.1 h
    obtain ⟨kinds, hkinds, hnone⟩ := ih hgap
    rcases hline with hline | hline
    · exact ⟨.blank :: kinds, .cons (read_eq_blank_iff.2 hline) hkinds,
        List.forall_mem_cons.2 ⟨rfl, hnone⟩⟩
    · exact ⟨.separator :: kinds, .cons (read_eq_separator_iff.2 hline) hkinds,
        List.forall_mem_cons.2 ⟨rfl, hnone⟩⟩

theorem IsBlock.exists_mean (h : IsBlock block names) :
    ∃ kinds, Mean block kinds ∧ .separator ∉ kinds ∧ kinds.filterMap Line.name? = names := by
  induction h with
  | nil => exact ⟨[], .nil, List.not_mem_nil, rfl⟩
  | ignored hline _ ih =>
    obtain ⟨kinds, hkinds, hsep, hnames⟩ := ih
    exact ⟨.blank :: kinds, .cons (read_eq_blank_iff.2 hline) hkinds, by simpa using hsep, hnames⟩
  | @name _ _ p _ hline _ ih =>
    obtain ⟨kinds, hkinds, hsep, hnames⟩ := ih
    exact ⟨.name p :: kinds, .cons (read_eq_name_iff.2 hline) hkinds, by simpa using hsep,
      congrArg (p :: ·) hnames⟩

/-- What is laid out is read as the chains that it lists. -/
theorem IsLayout.exists_mean (h : IsLayout lines chains) :
    ∃ kinds, Mean lines kinds ∧ groupLines kinds = chains.map ChainDescription.mk := by
  induction h with
  | gap hgap =>
    obtain ⟨kinds, hkinds, hnone⟩ := hgap.exists_mean
    have hgroup := groupLines_append_of_name?_eq_none hnone []
    rw [List.append_nil] at hgroup
    exact ⟨kinds, hkinds, hgroup⟩
  | last hgap hblock hne =>
    obtain ⟨gapKinds, hgapKinds, hnone⟩ := hgap.exists_mean
    obtain ⟨kinds, hkinds, hsep, rfl⟩ := hblock.exists_mean
    refine ⟨gapKinds ++ kinds, List.rel_append hgapKinds hkinds, ?_⟩
    rw [groupLines_append_of_name?_eq_none hnone, groupLines_of_notMem hsep, if_neg hne]
    rfl
  | cons hgap hblock hne hseparator _ ih =>
    obtain ⟨gapKinds, hgapKinds, hnone⟩ := hgap.exists_mean
    obtain ⟨kinds, hkinds, hsep, rfl⟩ := hblock.exists_mean
    obtain ⟨rest, hrest, hgroup⟩ := ih
    refine ⟨gapKinds ++ kinds ++ .separator :: rest,
      List.rel_append (List.rel_append hgapKinds hkinds)
        (.cons (read_eq_separator_iff.2 hseparator) hrest), ?_⟩
    rw [groupLines_append_separator, groupLines_append_of_name?_eq_none hnone,
      groupLines_of_notMem hsep, if_neg hne, hgroup]
    rfl

theorem isBlock_of_mean (h : Mean lines kinds) (hsep : .separator ∉ kinds) :
    IsBlock lines (kinds.filterMap Line.name?) := by
  induction h with
  | nil => exact .nil
  | @cons line kind lines kinds hline _ ih =>
    obtain ⟨hkind, hkinds⟩ := not_or.1 (mt List.mem_cons.2 hsep)
    cases kind with
    | blank => exact .ignored (read_eq_blank_iff.1 hline) (ih hkinds)
    | separator => exact absurd rfl hkind
    | name p => exact .name (read_eq_name_iff.1 hline) (ih hkinds)

theorem IsBlock.isGap (h : IsBlock block []) : IsGap block := by
  generalize hnames : ([] : List NamePattern) = names at h
  induction h with
  | nil => exact List.forall_mem_nil _
  | ignored hline _ ih => exact List.forall_mem_cons.2 ⟨.inl hline, ih hnames⟩
  | name => cases hnames

theorem IsLayout.gap_append (hgap : IsGap gap) (h : IsLayout lines chains) :
    IsLayout (gap ++ lines) chains := by
  cases h with
  | gap hlines => exact .gap (List.forall_mem_append.2 ⟨hgap, hlines⟩)
  | last hgap' hblock hne =>
    rw [← List.append_assoc]
    exact .last (List.forall_mem_append.2 ⟨hgap, hgap'⟩) hblock hne
  | cons hgap' hblock hne hseparator hrest =>
    rw [← List.append_assoc, ← List.append_assoc]
    exact .cons (List.forall_mem_append.2 ⟨hgap, hgap'⟩) hblock hne hseparator hrest

/-- What can be read is laid out. The induction is on the lines behind those, without a separator, that
belong to the first chain. -/
theorem isLayout_append (hblock : Mean block blockKinds) (hsep : .separator ∉ blockKinds)
    (h : Mean lines kinds) :
    IsLayout (block ++ lines) ((groupLines (blockKinds ++ kinds)).map (·.names)) := by
  induction h generalizing block blockKinds with
  | nil =>
    have hnames := isBlock_of_mean hblock hsep
    rw [List.append_nil, List.append_nil, groupLines_of_notMem hsep]
    split
    case isTrue hnil =>
      rw [hnil] at hnames
      exact .gap hnames.isGap
    case isFalse hne => exact .last (List.forall_mem_nil _) hnames hne
  | @cons line kind lines kinds hline hlines ih =>
    by_cases hkind : kind = .separator
    · subst hkind
      have hseparator := read_eq_separator_iff.1 hline
      have hnames := isBlock_of_mean hblock hsep
      have hrest := ih .nil List.not_mem_nil
      rw [groupLines_append_separator, groupLines_of_notMem hsep, List.map_append]
      split
      case isTrue hnil =>
        rw [hnil] at hnames
        have hone : IsGap [line] := by simpa [IsGap] using Or.inr hseparator
        exact (hrest.gap_append hone).gap_append hnames.isGap
      case isFalse hne => exact .cons (List.forall_mem_nil _) hnames hne hseparator hrest
    · have hmore := ih (List.rel_append hblock (.cons hline .nil))
        (by simpa [Ne.symm hkind] using hsep)
      simpa using hmore

theorem isLayout_of_mean (h : Mean lines kinds) :
    IsLayout lines ((groupLines kinds).map (·.names)) :=
  isLayout_append .nil List.not_mem_nil h

theorem IsGap.not_writes (h : IsGap gap) : ∀ line ∈ gap, ∀ p, ¬Writes line p := by
  intro line hline p hp
  have hslash := head?_of_writes hp
  rcases h line hline with hignored | hseparator
  · rw [isIgnored_iff, hslash] at hignored
    exact absurd hignored (by decide)
  · rw [isSeparator_iff, hslash] at hseparator
    exact absurd hseparator (by decide)

theorem IsBlock.exists_writes (h : IsBlock block names) (hne : names ≠ []) :
    ∃ line ∈ block, ∃ p, Writes line p := by
  induction h with
  | nil => exact absurd rfl hne
  | ignored _ _ ih =>
    obtain ⟨line, hline, hp⟩ := ih hne
    exact ⟨line, List.mem_cons_of_mem _ hline, hp⟩
  | name hline => exact ⟨_, List.mem_cons_self .., _, hline⟩

theorem IsLayout.exists_writes (h : IsLayout lines chains) (hne : chains ≠ []) :
    ∃ line ∈ lines, ∃ p, Writes line p := by
  cases h with
  | gap => exact absurd rfl hne
  | last _ hblock hnames =>
    obtain ⟨line, hline, hp⟩ := hblock.exists_writes hnames
    exact ⟨line, List.mem_append_right _ hline, hp⟩
  | cons _ hblock hnames =>
    obtain ⟨line, hline, hp⟩ := hblock.exists_writes hnames
    exact ⟨line, List.mem_append_left _ (List.mem_append_right _ hline), hp⟩

theorem IsLayout.ne_nil (h : IsLayout lines chains) : ∀ names ∈ chains, names ≠ [] := by
  induction h with
  | gap => exact List.forall_mem_nil _
  | last _ _ hne => exact List.forall_mem_singleton.2 hne
  | cons _ _ hne _ _ ih => exact List.forall_mem_cons.2 ⟨hne, ih⟩

theorem Mean.forall_read (h : Mean lines kinds) :
    ∀ line ∈ lines, ∃ kind, Line.read line = .ok kind := by
  induction h with
  | nil => exact List.forall_mem_nil _
  | cons hline _ ih => exact List.forall_mem_cons.2 ⟨⟨_, hline⟩, ih⟩

theorem exists_mean (h : ∀ line ∈ lines, ∃ kind, Line.read line = .ok kind) :
    ∃ kinds, Mean lines kinds := by
  induction lines with
  | nil => exact ⟨[], .nil⟩
  | cons line lines ih =>
    obtain ⟨⟨kind, hkind⟩, hlines⟩ := List.forall_mem_cons.1 h
    obtain ⟨kinds, hkinds⟩ := ih hlines
    exact ⟨kind :: kinds, .cons hkind hkinds⟩

end Layout

/-! ### Texts -/

section Text

variable {text : String} {lines : List (List Char)}

theorem mapM_read_linesOf (h : HasLines text.toList lines) :
    (linesOf text.toList).mapM Line.read = lines.mapM Line.read := by
  rw [← mapM_read_map_trimChars, ← h.map_trimChars, mapM_read_map_trimChars]

theorem readDescriptions_eq_ok_iff (h : HasLines text.toList lines)
    {descriptions : List ChainDescription} : readDescriptions text = .ok descriptions ↔
      descriptions ≠ [] ∧ IsLayout lines (descriptions.map (·.names)) := by
  rw [readDescriptions, mapM_read_linesOf h, bind_eq_ok_iff]
  constructor
  · rintro ⟨kinds, hkinds, hgroups⟩
    dsimp only at hgroups
    split at hgroups
    case isTrue => cases hgroups
    case isFalse hne =>
      cases hgroups
      exact ⟨by simpa using hne, isLayout_of_mean (mapM_read_eq_ok_iff.1 hkinds)⟩
  · rintro ⟨hne, hlayout⟩
    obtain ⟨kinds, hkinds, hgroups⟩ := hlayout.exists_mean
    rw [List.map_map] at hgroups
    have hdescriptions : groupLines kinds = descriptions := hgroups.trans (List.map_id _)
    refine ⟨kinds, mapM_read_eq_ok_iff.2 hkinds, ?_⟩
    dsimp only
    rw [hdescriptions, if_neg (by simpa using hne)]

/-- A text is refused for a line that is none of the four kinds, or because there is no name. -/
theorem exists_readDescriptions_eq_error_iff (h : HasLines text.toList lines) :
    (∃ e, readDescriptions text = .error e) ↔
      (∃ line ∈ lines, ¬IsIgnored line ∧ ¬IsSeparator line ∧ ∀ p, ¬Writes line p) ∨
        ∀ line ∈ lines, ∀ p, ¬Writes line p := by
  simp only [← exists_read_eq_error_iff]
  constructor
  · rintro ⟨e, he⟩
    by_cases hread : ∀ line ∈ lines, ∃ kind, Line.read line = .ok kind
    · right
      obtain ⟨kinds, hkinds⟩ := exists_mean hread
      have hlayout := isLayout_of_mean hkinds
      by_cases hnil : groupLines kinds = []
      · rw [hnil] at hlayout
        cases hlayout with
        | gap hgap => exact hgap.not_writes
      · rw [(readDescriptions_eq_ok_iff h).2 ⟨hnil, hlayout⟩] at he
        cases he
    · left
      push Not at hread
      obtain ⟨line, hline, hfail⟩ := hread
      refine ⟨line, hline, ?_⟩
      cases hline : Line.read line with
      | error e => exact ⟨e, rfl⟩
      | ok kind => exact absurd hline (hfail kind)
  · intro hrefused
    cases hread : readDescriptions text with
    | error e => exact ⟨e, rfl⟩
    | ok descriptions =>
      obtain ⟨hne, hlayout⟩ := (readDescriptions_eq_ok_iff h).1 hread
      rcases hrefused with ⟨line, hline, e, he⟩ | hnone
      · obtain ⟨kinds, hkinds, -⟩ := hlayout.exists_mean
        obtain ⟨kind, hkind⟩ := hkinds.forall_read line hline
        rw [he] at hkind
        cases hkind
      · obtain ⟨line, hline, p, hp⟩ := hlayout.exists_writes (by simpa using hne)
        exact absurd hp (hnone line hline p)

end Text

/-- However a text is written in lines, it is read exactly if these lines list chains, at least one, and
what is read are the chains with their names in order; none of them is empty. A text with another line,
or without names, is refused. -/
theorem read_eq_ok_iff_isLayout (vo host : String) (filename : Option String) (text : String) :
    (∃ lines, HasLines text.toList lines) ∧
      ∀ lines, HasLines text.toList lines →
        (∀ f, read vo host filename text = .ok f ↔
          (f.vo = vo ∧ f.host = host ∧ f.filename = filename) ∧
            f.descriptions ≠ [] ∧ IsLayout lines (f.descriptions.map (·.names))) ∧
        (∀ f, read vo host filename text = .ok f → ∀ d ∈ f.descriptions, d.names ≠ []) ∧
        ((∃ e, read vo host filename text = .error e) ↔
          (∃ line ∈ lines, ¬IsIgnored line ∧ ¬IsSeparator line ∧ ∀ p, ¬Writes line p) ∨
            ∀ line ∈ lines, ∀ p, ¬Writes line p) := by
  refine ⟨⟨_, hasLines_linesOf _⟩, fun lines hlines => ?_⟩
  have hok : ∀ f, read vo host filename text = .ok f ↔
      (f.vo = vo ∧ f.host = host ∧ f.filename = filename) ∧
        f.descriptions ≠ [] ∧ IsLayout lines (f.descriptions.map (·.names)) := by
    rintro ⟨vo', host', filename', descriptions⟩
    simp only [read, bind_eq_ok_iff, readDescriptions_eq_ok_iff hlines, pure_eq_ok_iff,
      LscFile.mk.injEq]
    grind
  refine ⟨hok, fun f hf d hd => ?_, ?_⟩
  · exact ((hok f).1 hf).2.2.ne_nil _ (List.mem_map_of_mem hd)
  · rw [← exists_readDescriptions_eq_error_iff hlines, read]
    cases readDescriptions text <;> simp [bind, Except.bind, pure, Except.pure]

end LscFile

namespace Sample

/-- Two chains, with separators before, between and after them. -/
def twoChains : String :=
  "--\n# the server\n\n /CN=localhost \r\n/CN=authority\n-- next --\n#\n---\r\n/CN=localhost\n-"

end Sample

namespace LscFile

theorem read_eq_ok_iff_isLayout_sample :
    (∃ f, read "org" "localhost" none Sample.twoChains = .ok f ∧
      f.descriptions.map (·.names.length) = [2, 1] ∧
      IsLayout (linesOf Sample.twoChains.toList) (f.descriptions.map (·.names)) ∧
      ∀ d ∈ f.descriptions, d.names ≠ []) ∧
    ∃ e, read "org" "localhost" none "# nothing" = .error e := by
  constructor
  · have hread : ((read "org" "localhost" none Sample.twoChains).map fun f =>
        f.descriptions.map (·.names.length)) = .ok [2, 1] := by decide +kernel
    obtain ⟨f, hf, hlengths⟩ := map_eq_ok_iff.1 hread
    obtain ⟨-, hlayout⟩ := read_eq_ok_iff_isLayout "org" "localhost" none Sample.twoChains
    obtain ⟨hok, hne, -⟩ := hlayout _ (hasLines_linesOf _)
    exact ⟨f, hf, hlengths, ((hok f).1 hf).2.2, hne f hf⟩
  · have hlines : HasLines "# nothing".toList ["# nothing".toList] := .last (by decide) (by decide)
    have hcomment : IsGap ["# nothing".toList] :=
      List.forall_mem_singleton.2 (.inl (.inr ⟨[], _, List.forall_mem_nil _, rfl⟩))
    obtain ⟨-, hlayout⟩ := read_eq_ok_iff_isLayout "org" "localhost" none "# nothing"
    exact (hlayout _ hlines).2.2.2 (.inr hcomment.not_writes)

end LscFile

end GridAuthz
