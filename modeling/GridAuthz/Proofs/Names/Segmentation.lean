import GridAuthz.Name.SlashForm
import GridAuthz.Proofs.Steps
import GridAuthz.Proofs.Text.Cutting

/-!
# The grammar of the slash form

A text in slash form is a slash and groups with slashes between them; a group is a key that names a
type of attribute, an equals sign and a value. A value may have slashes in it, as long as what follows
them does not start with a key of its own or with something written like one. A text is a pattern
exactly if it can be cut into groups like this, and then it can be in one way only
(`NamePattern.parse_iff_segmentation`).

Reading goes from piece to piece, and the groups that were found always spell what was read so far
(`readPieces_spells`).
-/

namespace GridAuthz

namespace NamePattern

/-! ### Groups -/

/-- The type of attribute that a key names. White space around the key does not count. -/
def kindOfKey? (key : List Char) : Option Oid :=
  AttributeType.ofName? (String.ofList (Text.trimChars key))

/-- A piece that does not start a group: what stands before its first equals sign, if it has one,
neither names a type of attribute nor is written like the name of one. -/
def IsContinuation (piece : List Char) : Prop :=
  ∀ key value, piece = key ++ '=' :: value → '=' ∉ key →
    kindOfKey? key = none ∧ looksLikeType (Text.trimChars key) = false

theorem IsContinuation.of_notMem {piece : List Char} (h : '=' ∉ piece) : IsContinuation piece := by
  intro key value hpiece
  exact absurd (by simp [hpiece]) h

/-- A key, the type of attribute that it names, and a value. -/
structure Group where
  /-- The key, with the white space around it. -/
  key : List Char
  /-- The type of attribute. -/
  kind : Oid
  /-- The value. -/
  value : List Char

namespace Group

/-- The text of a group. -/
def toChars (g : Group) : List Char := g.key ++ '=' :: g.value

/-- The attribute that a group gives, with the value as it is written. -/
def entry (g : Group) : Oid × List Char := (g.kind, g.value)

/-- The attribute that a pattern lists for a group. -/
def listed (g : Group) : Oid × String := (g.kind, Text.prepare (String.ofList g.value))

/-- A group as the slash form has it. -/
structure IsWellFormed (g : Group) : Prop where
  /-- The key ends before the first slash. -/
  slash_notMem : '/' ∉ g.key
  /-- The key ends before the first equals sign. -/
  equals_notMem : '=' ∉ g.key
  /-- The key names the type. -/
  kind_eq : kindOfKey? g.key = some g.kind
  /-- No piece of the value behind a slash starts a group. -/
  continues : ∀ piece ∈ (g.value.splitOn '/').tail, IsContinuation piece

end Group

/-- A text is a slash and at least one group, with slashes between them. -/
structure IsSegmentation (groups : List Group) (text : List Char) : Prop where
  /-- There is a group. -/
  ne_nil : groups ≠ []
  /-- All groups are as the slash form has them. -/
  wellFormed : ∀ g ∈ groups, g.IsWellFormed
  /-- Put together, the groups are the text. -/
  text_eq : text = '/' :: ['/'].intercalate (groups.map Group.toChars)

/-! ### Pieces -/

namespace Piece

variable {piece : List Char}

theorem ofChars_of_key {key value : List Char} (hpiece : piece = key ++ '=' :: value)
    (hkey : '=' ∉ key) :
    ofChars piece = match kindOfKey? key with
      | some kind => .attribute kind value
      | none => if looksLikeType (Text.trimChars key) then .unknown key else .continuation := by
  rw [ofChars, Text.cutAt?_eq_some_iff.2 ⟨hpiece, hkey⟩]
  rfl

/-- A piece starts a group exactly if its key names a type. -/
theorem ofChars_eq_attribute_iff {kind : Oid} {value : List Char} :
    ofChars piece = .attribute kind value ↔
      ∃ key, piece = key ++ '=' :: value ∧ '=' ∉ key ∧ kindOfKey? key = some kind := by
  constructor
  · intro h
    cases hcut : Text.cutAt? '=' piece with
    | none => simp [ofChars, hcut] at h
    | some sides =>
      obtain ⟨key, rest⟩ := sides
      obtain ⟨hpiece, hkey⟩ := Text.cutAt?_eq_some_iff.1 hcut
      rw [ofChars_of_key hpiece hkey] at h
      cases hkind : kindOfKey? key with
      | none =>
        rw [hkind] at h
        by_cases hlooks : looksLikeType (Text.trimChars key) <;> simp [hlooks] at h
      | some found =>
        rw [hkind] at h
        cases h
        exact ⟨key, hpiece, hkey, hkind⟩
  · rintro ⟨key, hpiece, hkey, hkind⟩
    rw [ofChars_of_key hpiece hkey, hkind]

theorem ofChars_eq_continuation_iff : ofChars piece = .continuation ↔ IsContinuation piece := by
  constructor
  · intro h key value hpiece hkey
    rw [ofChars_of_key hpiece hkey] at h
    cases hkind : kindOfKey? key with
    | none =>
      rw [hkind] at h
      refine ⟨rfl, ?_⟩
      by_contra hlooks
      rw [if_pos (by simpa using hlooks)] at h
      cases h
    | some kind =>
      rw [hkind] at h
      cases h
  · intro h
    cases hcut : Text.cutAt? '=' piece with
    | none => simp [ofChars, hcut]
    | some sides =>
      obtain ⟨key, value⟩ := sides
      obtain ⟨hpiece, hkey⟩ := Text.cutAt?_eq_some_iff.1 hcut
      obtain ⟨hkind, hlooks⟩ := h key value hpiece hkey
      rw [ofChars_of_key hpiece hkey, hkind, hlooks]
      rfl

end Piece

namespace Group

variable {g : Group}

/-- The pieces of a group between slashes. -/
def pieces (g : Group) : List (List Char) := g.toChars.splitOn '/'

/-- The group with one more piece of its value. -/
def extend (g : Group) (piece : List Char) : Group := { g with value := g.value ++ '/' :: piece }

/-- The first piece of a group has its key, and the others continue its value. -/
theorem IsWellFormed.exists_pieces (hg : g.IsWellFormed) :
    ∃ first rest, g.value = first ++ rest.flatMap ('/' :: ·) ∧
      g.pieces = (g.key ++ '=' :: first) :: rest ∧ ∀ piece ∈ rest, IsContinuation piece := by
  have hcontinues := hg.continues
  cases hsplit : g.value.splitOn '/' with
  | nil => exact absurd hsplit (List.splitOn_ne_nil '/' g.value)
  | cons first rest =>
    rw [hsplit, List.tail_cons] at hcontinues
    have hkey : '/' ∉ g.key ++ ['='] := by
      simpa using hg.slash_notMem
    have hpieces := Text.splitOn_append_of_notMem hkey hsplit
    rw [List.append_assoc, List.append_assoc] at hpieces
    exact ⟨first, rest, Text.eq_append_flatMap_of_splitOn hsplit, hpieces, hcontinues⟩

/-- A piece that starts a group is one. -/
theorem IsWellFormed.of_piece {key value : List Char} {kind : Oid}
    (hslash : '/' ∉ key ++ '=' :: value) (hkey : '=' ∉ key) (hkind : kindOfKey? key = some kind) :
    (Group.mk key kind value).IsWellFormed := by
  obtain ⟨hslashKey, hslashRest⟩ := not_or.1 (mt List.mem_append.2 hslash)
  have hvalue : '/' ∉ value := fun hmem => hslashRest (List.mem_cons_of_mem _ hmem)
  refine ⟨hslashKey, hkey, hkind, ?_⟩
  rw [List.splitOn_eq_singleton hvalue]
  simp

theorem IsWellFormed.extend (hg : g.IsWellFormed) {piece : List Char} (hslash : '/' ∉ piece)
    (hpiece : IsContinuation piece) : (g.extend piece).IsWellFormed := by
  refine ⟨hg.slash_notMem, hg.equals_notMem, hg.kind_eq, ?_⟩
  have htail : ((g.extend piece).value.splitOn '/').tail =
      (g.value.splitOn '/').tail ++ [piece] := by
    rw [Group.extend, List.splitOn_append_cons_self, List.splitOn_eq_singleton hslash,
      List.tail_append_of_ne_nil (List.splitOn_ne_nil '/' g.value)]
  rw [htail, List.forall_mem_append, List.forall_mem_singleton]
  exact ⟨hg.continues, hpiece⟩

theorem pieces_extend {piece : List Char} (hslash : '/' ∉ piece) :
    (g.extend piece).pieces = g.pieces ++ [piece] := by
  have htext : (g.extend piece).toChars = g.toChars ++ '/' :: piece := by
    simp [toChars, Group.extend]
  rw [pieces, htext, List.splitOn_append_cons_self, List.splitOn_eq_singleton hslash, pieces]

end Group

/-! ### Reading -/

variable {source : String}

theorem readPieces_cons_of_attribute {piece : List Char} {kind : Oid} {value : List Char}
    (h : Piece.ofChars piece = .attribute kind value) (found : List (Oid × List Char))
    (pieces : List (List Char)) :
    readPieces source found (piece :: pieces) =
      readPieces source ((kind, value) :: found) pieces := by
  simp only [readPieces, h]

theorem readPieces_cons_of_continuation {piece : List Char} (h : IsContinuation piece) (kind : Oid)
    (value : List Char) (found : List (Oid × List Char)) (pieces : List (List Char)) :
    readPieces source ((kind, value) :: found) (piece :: pieces) =
      readPieces source ((kind, value ++ '/' :: piece) :: found) pieces := by
  simp only [readPieces, Piece.ofChars_eq_continuation_iff.2 h]

theorem readPieces_continuations {rest : List (List Char)}
    (hrest : ∀ piece ∈ rest, IsContinuation piece) (kind : Oid) (value : List Char)
    (found : List (Oid × List Char)) (pieces : List (List Char)) :
    readPieces source ((kind, value) :: found) (rest ++ pieces) =
      readPieces source ((kind, value ++ rest.flatMap ('/' :: ·)) :: found) pieces := by
  induction rest generalizing value with
  | nil => simp
  | cons piece rest ih =>
    obtain ⟨hpiece, hrest⟩ := List.forall_mem_cons.1 hrest
    rw [List.cons_append, readPieces_cons_of_continuation hpiece, ih hrest, List.flatMap_cons,
      List.append_assoc]

/-- A group is read as a whole. -/
theorem readPieces_group {g : Group} (hg : g.IsWellFormed) (found : List (Oid × List Char))
    (pieces : List (List Char)) :
    readPieces source found (g.pieces ++ pieces) = readPieces source (g.entry :: found) pieces := by
  obtain ⟨first, rest, hvalue, hpieces, hrest⟩ := hg.exists_pieces
  have hfirst : Piece.ofChars (g.key ++ '=' :: first) = .attribute g.kind first :=
    Piece.ofChars_eq_attribute_iff.2 ⟨g.key, rfl, hg.equals_notMem, hg.kind_eq⟩
  rw [hpieces, List.cons_append, readPieces_cons_of_attribute hfirst,
    readPieces_continuations hrest, ← hvalue, Group.entry]

theorem readPieces_groups {groups : List Group} (hgroups : ∀ g ∈ groups, g.IsWellFormed)
    (found : List (Oid × List Char)) :
    readPieces source found (groups.flatMap Group.pieces) =
      .ok (found.reverse ++ groups.map Group.entry) := by
  induction groups generalizing found with
  | nil => simp [readPieces]
  | cons g groups ih =>
    obtain ⟨hg, hgroups⟩ := List.forall_mem_cons.1 hgroups
    rw [List.flatMap_cons, readPieces_group hg, ih hgroups]
    simp

/-- The groups that are found spell the pieces that were read. -/
theorem readPieces_spells {pieces : List (List Char)} (hslash : ∀ piece ∈ pieces, '/' ∉ piece)
    {found : List Group} (hfound : ∀ g ∈ found, g.IsWellFormed) {entries : List (Oid × List Char)}
    (h : readPieces source (found.map Group.entry) pieces = .ok entries) :
    ∃ groups : List Group, (∀ g ∈ groups, g.IsWellFormed) ∧ groups.map Group.entry = entries ∧
      groups.flatMap Group.pieces = found.reverse.flatMap Group.pieces ++ pieces := by
  induction pieces generalizing found with
  | nil =>
    rw [readPieces, ← List.map_reverse, Except.ok.injEq] at h
    exact ⟨found.reverse, by simpa using hfound, h, by simp⟩
  | cons piece pieces ih =>
    obtain ⟨hpiece, hpieces⟩ := List.forall_mem_cons.1 hslash
    rcases hkind : Piece.ofChars piece with ⟨kind, value⟩ | _ | key
    · -- A new group, with the piece as its text.
      obtain ⟨key, rfl, hkey, hname⟩ := Piece.ofChars_eq_attribute_iff.1 hkind
      rw [readPieces_cons_of_attribute hkind] at h
      have hnew := Group.IsWellFormed.of_piece hpiece hkey hname
      have hspelled : (Group.mk key kind value).pieces = [key ++ '=' :: value] :=
        List.splitOn_eq_singleton hpiece
      obtain ⟨groups, hgroups, hentries, hspells⟩ :=
        ih hpieces (List.forall_mem_cons.2 ⟨hnew, hfound⟩) h
      refine ⟨groups, hgroups, hentries, ?_⟩
      rw [hspells, List.reverse_cons, List.flatMap_append, List.flatMap_singleton, hspelled,
        List.append_assoc, List.singleton_append]
    · cases found with
      | nil => simp [readPieces, hkind] at h
      | cons g found =>
        -- The last group gets the piece.
        obtain ⟨hg, hfound⟩ := List.forall_mem_cons.1 hfound
        have hcontinues := Piece.ofChars_eq_continuation_iff.1 hkind
        have hlonger := hg.extend hpiece hcontinues
        rw [List.map_cons, Group.entry, readPieces_cons_of_continuation hcontinues] at h
        obtain ⟨groups, hgroups, hentries, hspells⟩ :=
          ih hpieces (List.forall_mem_cons.2 ⟨hlonger, hfound⟩) h
        refine ⟨groups, hgroups, hentries, ?_⟩
        rw [hspells, List.reverse_cons, List.reverse_cons, List.flatMap_append, List.flatMap_append,
          List.flatMap_singleton, List.flatMap_singleton, Group.pieces_extend hpiece]
        simp only [List.append_assoc, List.singleton_append]
    · simp [readPieces, hkind] at h

/-! ### Texts -/

namespace IsSegmentation

variable {groups groups' : List Group} {text : List Char}

/-- The groups of a text have its pieces. -/
theorem exists_body (h : IsSegmentation groups text) :
    ∃ body, text = '/' :: body ∧ body.splitOn '/' = groups.flatMap Group.pieces := by
  have hne : groups.map Group.toChars ≠ [] := by simpa using h.ne_nil
  refine ⟨_, h.text_eq, ?_⟩
  rw [Text.splitOn_intercalate_eq_flatMap hne, List.flatMap_map]
  rfl

theorem text_eq_flatMap (h : IsSegmentation groups text) :
    text = groups.flatMap ('/' :: ·.toChars) := by
  rw [h.text_eq, Text.cons_intercalate_eq_flatMap (by simpa using h.ne_nil), List.flatMap_map]

/-- What is read from a text that is made of groups. -/
theorem readPieces_eq (h : IsSegmentation groups text) {body : List Char}
    (hbody : text = '/' :: body) (source : String) :
    readPieces source [] (body.splitOn '/') = .ok (groups.map Group.entry) := by
  obtain ⟨body', htext, hpieces⟩ := h.exists_body
  obtain rfl : body = body' := (List.cons.inj (hbody.symm.trans htext)).2
  rw [hpieces, readPieces_groups h.wellFormed]
  rfl

end IsSegmentation

/-- The text and the attributes tell where the keys are. -/
theorem eq_of_flatMap_eq {groups groups' : List Group} (hgroups : ∀ g ∈ groups, g.IsWellFormed)
    (hgroups' : ∀ g ∈ groups', g.IsWellFormed)
    (hentries : groups.map Group.entry = groups'.map Group.entry)
    (htext : groups.flatMap ('/' :: ·.toChars) = groups'.flatMap ('/' :: ·.toChars)) :
    groups = groups' := by
  induction groups generalizing groups' with
  | nil =>
    rw [List.map_nil, eq_comm, List.map_eq_nil_iff] at hentries
    exact hentries.symm
  | cons g groups ih =>
    cases groups' with
    | nil => simp at hentries
    | cons g' groups' =>
      obtain ⟨hg, hgroups⟩ := List.forall_mem_cons.1 hgroups
      obtain ⟨hg', hgroups'⟩ := List.forall_mem_cons.1 hgroups'
      rw [List.map_cons, List.map_cons, List.cons.injEq] at hentries
      obtain ⟨hentry, hentries⟩ := hentries
      obtain ⟨hkind, hvalue⟩ := Prod.mk.inj hentry
      rw [List.flatMap_cons, List.flatMap_cons, List.cons_append, List.cons_append, Group.toChars,
        Group.toChars, List.append_assoc, List.append_assoc] at htext
      obtain ⟨hkey, hrest⟩ :=
        Text.append_cons_inj hg.equals_notMem hg'.equals_notMem (List.cons.inj htext).2
      rw [hvalue] at hrest
      have hsame : g = g' := by
        obtain ⟨key, kind, value⟩ := g
        rw [Group.mk.injEq]
        exact ⟨hkey, hkind, hvalue⟩
      rw [hsame, ih hgroups hgroups' hentries (List.append_cancel_left hrest)]

theorem IsSegmentation.unique {groups groups' : List Group} {text : List Char}
    (h : IsSegmentation groups text) (h' : IsSegmentation groups' text) : groups = groups' := by
  obtain ⟨body, htext, -⟩ := h.exists_body
  have hentries : groups.map Group.entry = groups'.map Group.entry :=
    Except.ok.inj ((h.readPieces_eq htext "").symm.trans (h'.readPieces_eq htext ""))
  exact eq_of_flatMap_eq h.wellFormed h'.wellFormed hentries
    (h.text_eq_flatMap.symm.trans h'.text_eq_flatMap)

/-- A text that is made of groups is a pattern. -/
theorem parse_of_isSegmentation {groups : List Group} {text : String}
    (h : IsSegmentation groups (Text.trim text).toList) :
    parse text = .ok ⟨Text.trim text, groups.map Group.listed⟩ := by
  obtain ⟨body, htext, -⟩ := h.exists_body
  rw [parse]
  simp only [htext, h.readPieces_eq htext (Text.trim text)]
  simp only [bind, Except.bind, pure, Except.pure, List.map_map]
  rfl

theorem exists_isSegmentation_of_parse {text : String} {p : NamePattern}
    (h : parse text = .ok p) : ∃ groups, IsSegmentation groups (Text.trim text).toList := by
  rw [parse] at h
  simp only at h
  split at h
  case h_2 => cases h
  case h_1 body htext =>
    obtain ⟨entries, hread, -⟩ := bind_eq_ok_iff.1 h
    have hslash : ∀ piece ∈ body.splitOn '/', '/' ∉ piece := by
      intro piece hpiece
      exact Text.notMem_of_mem_splitOn hpiece
    have hnone : ∀ g ∈ ([] : List Group), g.IsWellFormed := List.forall_mem_nil _
    obtain ⟨groups, hgroups, -, hspells⟩ := readPieces_spells hslash hnone hread
    rw [List.reverse_nil, List.flatMap_nil, List.nil_append] at hspells
    have hne : groups ≠ [] := by
      rintro rfl
      exact List.splitOn_ne_nil '/' body hspells.symm
    refine ⟨groups, hne, hgroups, ?_⟩
    rw [htext, List.cons.injEq]
    refine ⟨rfl, Text.eq_of_splitOn_eq (c := '/') ?_⟩
    rw [← hspells, Text.splitOn_intercalate_eq_flatMap (by simpa using hne), List.flatMap_map]
    rfl

/-- A text is a pattern exactly if, without the white space around it, it is made of groups. There is
one way to cut it into groups then: the pattern lists the types and the prepared values of these
groups in order, and its text is their keys and values put together again. -/
theorem parse_iff_segmentation (text : String) :
    ((∃ p, parse text = .ok p) ↔ ∃ groups, IsSegmentation groups (Text.trim text).toList) ∧
    (∀ groups groups', IsSegmentation groups (Text.trim text).toList →
      IsSegmentation groups' (Text.trim text).toList → groups = groups') ∧
    ∀ p groups, parse text = .ok p → IsSegmentation groups (Text.trim text).toList →
      p.attributes = groups.map Group.listed ∧ p.source = Text.trim text ∧
      p.source.toList = '/' :: ['/'].intercalate (groups.map Group.toChars) := by
  refine ⟨⟨?_, ?_⟩, ?_, ?_⟩
  · rintro ⟨p, h⟩
    exact exists_isSegmentation_of_parse h
  · rintro ⟨groups, h⟩
    exact ⟨_, parse_of_isSegmentation h⟩
  · intro groups groups' h h'
    exact h.unique h'
  · intro p groups hparse h
    rw [parse_of_isSegmentation h, Except.ok.injEq] at hparse
    subst hparse
    exact ⟨rfl, rfl, h.text_eq⟩

end NamePattern

namespace Sample

/-- A common name with an equals sign and a slash in it, and a mail address. -/
def slashedText : String := " / CN =grid=host/voms.example.org/E=ann@example.org "

/-- The groups of this text. -/
def slashedGroups : List NamePattern.Group :=
  [⟨" CN ".toList, AttributeType.commonName, "grid=host/voms.example.org".toList⟩,
    ⟨"E".toList, AttributeType.emailAddress, "ann@example.org".toList⟩]

theorem isSegmentation_slashedGroups :
    NamePattern.IsSegmentation slashedGroups (Text.trim slashedText).toList := by
  refine ⟨List.cons_ne_nil _ _, ?_, by decide +kernel⟩
  rw [slashedGroups, List.forall_mem_cons, List.forall_mem_singleton]
  constructor
  · refine ⟨by decide, by decide, by decide +kernel, ?_⟩
    have htail : ("grid=host/voms.example.org".toList.splitOn '/').tail =
        ["voms.example.org".toList] := by decide
    rw [htail, List.forall_mem_singleton]
    exact .of_notMem (by decide)
  · refine ⟨by decide, by decide, by decide +kernel, ?_⟩
    have htail : ("ann@example.org".toList.splitOn '/').tail = [] := by decide
    rw [htail]
    exact List.forall_mem_nil _

end Sample

theorem NamePattern.parse_iff_segmentation_sample :
    IsSegmentation Sample.slashedGroups (Text.trim Sample.slashedText).toList ∧
      ∃ p, parse Sample.slashedText = .ok p ∧
        p.attributes = Sample.slashedGroups.map Group.listed := by
  obtain ⟨hparse, -, hlisted⟩ := parse_iff_segmentation Sample.slashedText
  obtain ⟨p, hp⟩ := hparse.2 ⟨_, Sample.isSegmentation_slashedGroups⟩
  have hattributes := (hlisted p _ hp Sample.isSegmentation_slashedGroups).1
  exact ⟨Sample.isSegmentation_slashedGroups, p, hp, hattributes⟩

end GridAuthz
