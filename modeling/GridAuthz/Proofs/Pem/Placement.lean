import Mathlib.Data.List.Sort
import GridAuthz.Certificate.Pem
import GridAuthz.Proofs.Pem.ReadBack

/-!
# Where the blocks of a text stand

A text that is read as PEM is laid out as its blocks, one after the other, each behind text that is
passed over (`Pem.exists_layOut`). As many first lines occur in the text as there are blocks, and each
block starts with one, so that there is none anywhere else (`Pem.starts_eq_places`,
`Pem.occurrences_of_layOut`). Nor does one form where two texts meet at the end of a line, and the
blocks of the two texts are those of the first and then those of the second
(`Pem.rawBlocks_append_cons`).
-/

namespace GridAuthz.Pem

/-! ### Layouts -/

/-- A block where it stands, behind text that is passed over. -/
structure Piece where
  /-- The text before the block. -/
  gap : List Char
  /-- The block. -/
  block : RawBlock
  /-- The white space between its first line and what it holds. -/
  blanks : List Char

/-- The characters of the text and of the block behind it. -/
def Piece.chars (piece : Piece) : List Char := piece.gap ++ piece.block.chars piece.blanks

/-- The text that blocks stand in, up to a last piece that is passed over. -/
def layOut (pieces : List Piece) (tail : List Char) : List Char :=
  pieces.flatMap Piece.chars ++ tail

theorem layOut_cons (piece : Piece) (pieces : List Piece) (tail : List Char) :
    layOut (piece :: pieces) tail = piece.chars ++ layOut pieces tail := by
  simp only [layOut, List.flatMap_cons, List.append_assoc]

/-- The blocks of a text stand in it, in order. White space in front is passed over too. -/
theorem exists_layOut (gap cs : List Char) :
    ∃ pieces tail, gap ++ cs = layOut pieces tail ∧ pieces.map (·.block) = rawBlocks cs := by
  induction cs using rawBlocks.induct generalizing gap with
  | case1 cs h =>
    exact ⟨[], gap ++ cs, rfl, (rawBlocks_of_none h).symm⟩
  | case2 cs block rest h hlt ih =>
    obtain ⟨gap', blanks, blanks', hcs⟩ := exists_chars_of_nextBlock? h
    obtain ⟨pieces, tail, hrest, hpieces⟩ := ih blanks'
    refine ⟨⟨gap ++ gap', block, blanks⟩ :: pieces, tail, ?_, ?_⟩
    · rw [layOut_cons, ← hrest, hcs]
      simp only [Piece.chars, List.append_assoc]
    · rw [List.map_cons, hpieces, rawBlocks_of_some h]

/-! ### First lines -/

/-- The places where a pattern stands in a text, counted from zero. -/
def places (pattern cs : List Char) : List Nat :=
  (List.range cs.length).filter fun i => pattern.isPrefixOf (cs.drop i)

theorem mem_places_iff {pattern cs : List Char} (hne : pattern ≠ []) {i : Nat} :
    i ∈ places pattern cs ↔ pattern <+: cs.drop i := by
  rw [places, List.mem_filter, List.mem_range, List.isPrefixOf_iff_prefix, and_iff_right_iff_imp]
  intro h
  by_contra hlt
  rw [List.drop_of_length_le (not_lt.1 hlt), List.prefix_nil] at h
  exact hne h

theorem length_places {pattern : List Char} (hne : pattern ≠ []) (cs : List Char) :
    (places pattern cs).length = occurrences pattern cs := by
  induction cs with
  | nil => simp [places, occurrences, hne]
  | cons c cs ih =>
    rw [occurrences, ← ih, places, places, List.length_cons, List.range_succ_eq_map,
      List.filter_cons, List.filter_map, List.drop_zero]
    split_ifs
    · simp [Function.comp_def, Nat.add_comm]
    · simp [Function.comp_def]

/-- Where the blocks start. -/
def starts : List Piece → List Nat
  | [] => []
  | piece :: pieces => piece.gap.length :: (starts pieces).map (piece.chars.length + ·)

theorem length_starts (pieces : List Piece) : (starts pieces).length = pieces.length := by
  induction pieces with
  | nil => rfl
  | cons piece pieces ih => rw [starts, List.length_cons, List.length_map, ih, List.length_cons]

theorem beginMarker_ne_nil : beginMarker ≠ [] := by decide

theorem beginMarker_prefix_chars (block : RawBlock) (blanks : List Char) :
    beginMarker <+: block.chars blanks := by
  simp only [RawBlock.chars, List.append_assoc]
  exact List.prefix_append ..

theorem pairwise_starts (pieces : List Piece) : (starts pieces).Pairwise (· < ·) := by
  induction pieces with
  | nil => exact List.Pairwise.nil
  | cons piece pieces ih =>
    rw [starts, List.pairwise_cons, List.pairwise_map]
    refine ⟨?_, ih.imp fun h => Nat.add_lt_add_left h _⟩
    intro i hi
    obtain ⟨j, -, rfl⟩ := List.mem_map.1 hi
    have hmarker := (beginMarker_prefix_chars piece.block piece.blanks).length_le
    have hpos : 0 < beginMarker.length := by decide
    rw [Piece.chars, List.length_append]
    omega

/-- Each block starts with a first line. -/
theorem starts_subset_places (pieces : List Piece) (tail : List Char) :
    starts pieces ⊆ places beginMarker (layOut pieces tail) := by
  induction pieces with
  | nil => exact List.nil_subset _
  | cons piece pieces ih =>
    intro i hi
    rw [mem_places_iff beginMarker_ne_nil, layOut_cons]
    rcases List.mem_cons.1 hi with rfl | hi
    · rw [Piece.chars, List.append_assoc, List.drop_left]
      exact (beginMarker_prefix_chars ..).trans (List.prefix_append ..)
    · obtain ⟨j, hj, rfl⟩ := List.mem_map.1 hi
      rw [← List.drop_drop, List.drop_left]
      exact (mem_places_iff beginMarker_ne_nil).1 (ih hj)

/-- If no more first lines occur than there are blocks, they are where the blocks start. -/
theorem starts_eq_places {pieces : List Piece} {tail : List Char}
    (h : occurrences beginMarker (layOut pieces tail) = pieces.length) :
    starts pieces = places beginMarker (layOut pieces tail) := by
  have hle : (places beginMarker (layOut pieces tail)).length ≤ (starts pieces).length := by
    rw [length_places beginMarker_ne_nil, h, length_starts]
  have hperm := (List.subperm_of_subset (pairwise_starts pieces).nodup
    (starts_subset_places pieces tail)).perm_of_length_le hle
  exact hperm.eq_of_pairwise' (pairwise_starts pieces) (List.pairwise_lt_range.filter _)

/-- There are at least as many first lines as blocks. -/
theorem length_le_occurrences (pieces : List Piece) (tail : List Char) :
    pieces.length ≤ occurrences beginMarker (layOut pieces tail) := by
  have hle := (List.subperm_of_subset (pairwise_starts pieces).nodup
    (starts_subset_places pieces tail)).length_le
  rwa [length_starts, length_places beginMarker_ne_nil] at hle

/-- If there are no more, each block holds one, and the text between blocks holds none. -/
theorem occurrences_of_layOut {pieces : List Piece} {tail : List Char}
    (h : occurrences beginMarker (layOut pieces tail) = pieces.length) :
    (∀ piece ∈ pieces, occurrences beginMarker piece.gap = 0 ∧
      occurrences beginMarker (piece.block.chars piece.blanks) = 1) ∧
    occurrences beginMarker tail = 0 := by
  induction pieces with
  | nil => exact ⟨by simp, h⟩
  | cons piece pieces ih =>
    have hgap := occurrences_append_le beginMarker_ne_nil piece.gap
      (piece.block.chars piece.blanks)
    have hpiece := occurrences_append_le beginMarker_ne_nil piece.chars (layOut pieces tail)
    have hrest := length_le_occurrences pieces tail
    have hblock := occurrences_pos beginMarker_ne_nil
      (beginMarker_prefix_chars piece.block piece.blanks).isInfix
    rw [layOut_cons, List.length_cons] at h
    rw [Piece.chars] at hpiece h
    obtain ⟨hpieces, htail⟩ := ih (by omega)
    exact ⟨List.forall_mem_cons.2 ⟨⟨by omega, by omega⟩, hpieces⟩, htail⟩

/-! ### Texts one after the other -/

theorem length_rawBlocks_le (cs : List Char) :
    (rawBlocks cs).length ≤ occurrences beginMarker cs := by
  obtain ⟨pieces, tail, hcs, hpieces⟩ := exists_layOut [] cs
  rw [← hpieces, List.length_map, ← List.nil_append cs, hcs]
  exact length_le_occurrences pieces tail

theorem occurrences_lt_of_nextBlock? {cs rest : List Char} {block : RawBlock}
    (h : nextBlock? cs = some (block, rest)) :
    occurrences beginMarker rest < occurrences beginMarker cs := by
  obtain ⟨gap, blanks, blanks', rfl⟩ := exists_chars_of_nextBlock? h
  have hrest := occurrences_append_le beginMarker_ne_nil (gap ++ block.chars blanks ++ blanks') rest
  have hblock : 0 < occurrences beginMarker (gap ++ block.chars blanks ++ blanks') :=
    occurrences_pos beginMarker_ne_nil
      ((beginMarker_prefix_chars block blanks).isInfix.trans ⟨gap, blanks', rfl⟩)
  omega

/-- If as many first lines occur in a text as there are blocks, what comes after the end of its last
line is read as if it stood alone. -/
theorem rawBlocks_append_cons {cs : List Char}
    (h : occurrences beginMarker cs = (rawBlocks cs).length) (ds : List Char) :
    rawBlocks (cs ++ '\n' :: ds) = rawBlocks cs ++ rawBlocks ds := by
  induction cs using rawBlocks.induct with
  | case1 cs hnone =>
    -- Not even a first line is found, so that the next one can only be behind the end of the line.
    have hmarker : afterMarker? beginMarker beginMarker cs = none := by
      rw [rawBlocks_of_none hnone, List.length_nil] at h
      by_contra hsome
      obtain ⟨rest, hrest⟩ := Option.ne_none_iff_exists'.1 hsome
      obtain ⟨before, hbefore⟩ := exists_splitAtMarker? hrest
      have hinfix : beginMarker <:+: cs :=
        ⟨before, rest, (splitAtMarker?_eq_some_iff.1 hbefore).2.symm⟩
      exact absurd h (occurrences_pos beginMarker_ne_nil hinfix).ne'
    rw [rawBlocks_of_none hnone, List.nil_append]
    exact rawBlocks_congr
      (afterMarker?_append_cons (by decide) (List.Subset.refl _) hmarker ds)
  | case2 cs block rest hsome hlt ih =>
    obtain ⟨last, hlast, hnext⟩ := exists_nextBlock?_append hsome
    rw [rawBlocks_of_some (hnext _), rawBlocks_of_some hsome, List.cons_append]
    congr 1
    by_cases hrest : rest = []
    · have hnil : rawBlocks [] = [] := rawBlocks_of_none rfl
      rw [skipBlanks_append_of_eq_nil (hlast.trans hrest), rawBlocks_skipBlanks, hrest, hnil,
        List.nil_append]
      exact rawBlocks_congr rfl
    · have hcount : occurrences beginMarker rest = (rawBlocks rest).length := by
        have hlt := occurrences_lt_of_nextBlock? hsome
        have hle := length_rawBlocks_le rest
        rw [rawBlocks_of_some hsome, List.length_cons] at h
        omega
      rw [skipBlanks_append (hlast.symm ▸ hrest), hlast, ih hcount]

/-! ### Texts that are read -/

theorem read_append {a b : String} {as bs : List PemBlock} (ha : read a = .ok as)
    (hb : read b = .ok bs) : read (a ++ "\n" ++ b) = .ok (as ++ bs) := by
  rw [read_eq_ok_iff] at ha hb ⊢
  obtain ⟨hblocks, hcount⟩ := ha
  obtain ⟨hblocks', hcount'⟩ := hb
  have htext : (a ++ "\n" ++ b).toList = a.toList ++ '\n' :: b.toList := by simp
  rw [htext, rawBlocks_append_cons (hcount.trans hblocks.length_eq.symm),
    occurrences_append_cons beginMarker_ne_nil (by decide), hcount, hcount', List.length_append]
  exact ⟨List.rel_append hblocks hblocks', rfl⟩

theorem exists_pieces_of_read {text : String} {blocks : List PemBlock} (h : read text = .ok blocks) :
    ∃ pieces tail, text.toList = layOut pieces tail ∧
      List.Forall₂ (fun piece block => piece.block.read = .ok block) pieces blocks ∧
      occurrences beginMarker (layOut pieces tail) = pieces.length := by
  obtain ⟨hblocks, hcount⟩ := read_eq_ok_iff.1 h
  obtain ⟨pieces, tail, htext, hpieces⟩ := exists_layOut [] text.toList
  rw [List.nil_append] at htext
  rw [← hpieces, List.forall₂_map_left_iff] at hblocks
  exact ⟨pieces, tail, htext, hblocks, by rw [← htext, hcount, hblocks.length_eq]⟩

end GridAuthz.Pem

namespace GridAuthz.Certificate

open Pem

/-- Certificates are read from a text if its blocks are found and those for certificates hold some. -/
theorem readPem_eq_ok_iff {text : String} {certificates : List Certificate} :
    readPem text = .ok certificates ↔
      ∃ blocks, Pem.read text = .ok blocks ∧ ofBlocks? blocks = some certificates := by
  rw [readPem]
  cases Pem.read text with
  | error error => simp [Except.mapError, bind, Except.bind]
  | ok blocks =>
    simp only [Except.mapError, bind, Except.bind, Except.ok.injEq, exists_eq_left']
    cases ofBlocks? blocks <;> simp

/-- If the blocks are found, reading fails only where a block for a certificate holds none. -/
theorem readPem_eq_error_iff {text : String} {blocks : List PemBlock}
    (h : Pem.read text = .ok blocks) {error : CertificateTextError} :
    readPem text = .error error ↔ error = .certificate ∧
      ∃ block ∈ blocks, block.label = pemLabel ∧ ofDer? block.contents = none := by
  have hnone : ofBlocks? blocks = none ↔
      ∃ block ∈ blocks, block.label = pemLabel ∧ ofDer? block.contents = none := by
    simp only [ofBlocks?, mapM_eq_none_iff, List.mem_filter, decide_eq_true_eq, and_assoc]
  rw [← hnone, readPem, h]
  simp only [Except.mapError, bind, Except.bind]
  cases ofBlocks? blocks <;> simp [eq_comm]

theorem ofBlocks?_append {blocks blocks' : List PemBlock} {as bs : List Certificate}
    (ha : ofBlocks? blocks = some as) (hb : ofBlocks? blocks' = some bs) :
    ofBlocks? (blocks ++ blocks') = some (as ++ bs) := by
  rw [ofBlocks?, mapM_eq_some_iff_forall₂] at ha hb ⊢
  rw [List.filter_append]
  exact List.rel_append ha hb

end GridAuthz.Certificate

namespace GridAuthz.Pem

/-- Every first line of a text that is read begins one block of it, in order; none is passed over
between blocks or held in another block. The certificates are those of the blocks labelled for them,
or there are none at all. The blocks of one text, an end of line and another text are those of both. -/
theorem read_finds_every_block :
    (∀ text blocks, read text = .ok blocks →
      (∃ pieces tail, text.toList = layOut pieces tail ∧
        List.Forall₂ (fun piece block => piece.block.read = .ok block) pieces blocks ∧
        starts pieces = places beginMarker text.toList ∧
        (∀ piece ∈ pieces, occurrences beginMarker piece.gap = 0 ∧
          occurrences beginMarker (piece.block.chars piece.blanks) = 1) ∧
        occurrences beginMarker tail = 0) ∧
      (∀ certificates, Certificate.readPem text = .ok certificates ↔
        List.Forall₂ (fun block c => Certificate.ofDer? block.contents = some c)
          (blocks.filter (·.label = Certificate.pemLabel)) certificates) ∧
      (∀ error, Certificate.readPem text = .error error ↔ error = .certificate ∧
        ∃ block ∈ blocks, block.label = Certificate.pemLabel ∧
          Certificate.ofDer? block.contents = none)) ∧
    (∀ a b as bs, read a = .ok as → read b = .ok bs → read (a ++ "\n" ++ b) = .ok (as ++ bs)) ∧
    (∀ a b as bs, Certificate.readPem a = .ok as → Certificate.readPem b = .ok bs →
      Certificate.readPem (a ++ "\n" ++ b) = .ok (as ++ bs)) := by
  refine ⟨fun text blocks h => ⟨?_, fun certificates => ?_, fun error => ?_⟩, ?_, ?_⟩
  · obtain ⟨pieces, tail, htext, hblocks, hcount⟩ := exists_pieces_of_read h
    obtain ⟨hpieces, htail⟩ := occurrences_of_layOut hcount
    exact ⟨pieces, tail, htext, hblocks, htext ▸ starts_eq_places hcount, hpieces, htail⟩
  · rw [← mapM_eq_some_iff_forall₂, Certificate.readPem_eq_ok_iff, h]
    simp only [Except.ok.injEq, exists_eq_left', Certificate.ofBlocks?]
  · exact Certificate.readPem_eq_error_iff h
  · intro a b as bs ha hb
    exact read_append ha hb
  · intro a b as bs ha hb
    obtain ⟨blocks, hblocks, has⟩ := Certificate.readPem_eq_ok_iff.1 ha
    obtain ⟨blocks', hblocks', hbs⟩ := Certificate.readPem_eq_ok_iff.1 hb
    exact Certificate.readPem_eq_ok_iff.2
      ⟨blocks ++ blocks', read_append hblocks hblocks', Certificate.ofBlocks?_append has hbs⟩

/-- A text with a block of another kind, and the text twice. -/
theorem read_finds_every_block_of_note :
    let text := "-----BEGIN NOTE-----\nAQ==\n-----END NOTE-----\n"
    let blocks : List PemBlock := [⟨"NOTE", [1]⟩]
    read text = .ok blocks ∧
      (∃ pieces tail, text.toList = layOut pieces tail ∧
        List.Forall₂ (fun piece block => piece.block.read = .ok block) pieces blocks ∧
        starts pieces = places beginMarker text.toList) ∧
      Certificate.readPem text = .ok [] ∧
      read (text ++ "\n" ++ text) = .ok (blocks ++ blocks) := by
  have hwrite : write [⟨"NOTE", [1]⟩] = "-----BEGIN NOTE-----\nAQ==\n-----END NOTE-----\n" := by
    decide +kernel
  have hread : read "-----BEGIN NOTE-----\nAQ==\n-----END NOTE-----\n" = .ok [⟨"NOTE", [1]⟩] := by
    rw [← hwrite]
    exact read_write (by decide)
  obtain ⟨hblocks, happend, -⟩ := read_finds_every_block
  obtain ⟨⟨pieces, tail, htext, hpieces, hstarts, -⟩, hcertificates, -⟩ := hblocks _ _ hread
  exact ⟨hread, ⟨pieces, tail, htext, hpieces, hstarts⟩, (hcertificates []).2 (by decide),
    happend _ _ _ _ hread hread⟩

end GridAuthz.Pem
