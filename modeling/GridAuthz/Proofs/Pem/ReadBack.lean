import GridAuthz.Proofs.Pem.Scanning
import GridAuthz.Proofs.Text.Base64

/-!
# Blocks read back

A block that is written is found again by its markers, and what its lines hold is what was written in
base64 (`Pem.rawBlocks_toChars_append`). So a text of blocks is read back as those blocks, whatever
they hold (`Pem.read_write`), if their labels can be told from the dashes around them.
-/

namespace GridAuthz.Pem

/-! ### Lines -/

theorem flatten_wrap {width fuel : Nat} {cs : List Char} (h : cs.length ≤ width * fuel) :
    (wrap width fuel cs).flatten = cs := by
  induction fuel generalizing cs with
  | zero =>
    have hnil : cs = [] := List.length_eq_zero_iff.1 (Nat.le_zero.1 h)
    rw [hnil, wrap, List.flatten_nil]
  | succ fuel ih =>
    rw [wrap]
    split_ifs with hempty
    · exact (List.isEmpty_iff.1 hempty).symm
    · have hrest : (cs.drop width).length ≤ width * fuel := by
        rw [List.length_drop]
        rw [Nat.mul_succ] at h
        omega
      rw [List.flatten_cons, ih hrest, List.take_append_drop]

theorem ne_nil_of_mem_wrap {width fuel : Nat} (hwidth : 0 < width) {cs line : List Char}
    (h : line ∈ wrap width fuel cs) : line ≠ [] := by
  induction fuel generalizing cs with
  | zero => simp [wrap] at h
  | succ fuel ih =>
    rw [wrap] at h
    split_ifs at h with hempty
    · simp at h
    · rcases List.mem_cons.1 h with rfl | h
      · rw [List.isEmpty_iff] at hempty
        simp [hempty, hwidth.ne']
      · exact ih h

/-- A line feed is passed over if no other comes right after it. -/
theorem afterMarker?_lines {lines : List (List Char)}
    (h : ∀ line ∈ lines, line ≠ [] ∧ '\n' ∉ line) :
    afterMarker? ['\n', '\n'] ['\n', '\n'] (lines.flatMap (· ++ ['\n'])) = none := by
  induction lines with
  | nil => rfl
  | cons line lines ih =>
    rw [List.forall_mem_cons] at h
    -- The second line feed would have to stand where the next line begins.
    have hnext : afterMarker? ['\n', '\n'] ['\n'] (lines.flatMap (· ++ ['\n'])) =
        afterMarker? ['\n', '\n'] ['\n', '\n'] (lines.flatMap (· ++ ['\n'])) := by
      cases lines with
      | nil => rfl
      | cons next lines =>
        obtain ⟨hne, hmem⟩ := h.2 next (List.mem_cons_self ..)
        obtain ⟨c, cs, rfl⟩ := List.exists_cons_of_ne_nil hne
        have hc : c ≠ '\n' := fun hc => hmem (hc ▸ List.mem_cons_self ..)
        simp only [List.flatMap_cons, List.cons_append, afterMarker?, if_neg hc]
    rw [List.flatMap_cons, List.append_assoc, afterMarker?_append_of_notMem h.1.2,
      List.singleton_append, afterMarker?, if_pos rfl, hnext, ih h.2]

/-! ### What a block holds -/

section Body

variable (contents : Bytes)

/-- The lines between the first and the last line of a block. -/
def bodyLines : List (List Char) := wrap 64 (contents.length * 2) (Base64.encode contents)

/-- What stands between the first and the last line of a block. -/
def body : List Char := (bodyLines contents).flatMap (· ++ ['\n'])

theorem flatten_bodyLines : (bodyLines contents).flatten = Base64.encode contents := by
  apply flatten_wrap
  rw [Base64.length_encode]
  omega

theorem isDigit_of_mem_bodyLines :
    ∀ line ∈ bodyLines contents, ∀ c ∈ line, Base64.IsDigit c := by
  intro line hline c hc
  apply Base64.isDigit_of_mem_encode contents
  rw [← flatten_bodyLines]
  exact List.mem_flatten_of_mem hline hc

theorem isDigit_of_mem_body : ∀ c ∈ body contents, Base64.IsDigit c ∨ c = '\n' := by
  intro c hc
  obtain ⟨line, hline, hc⟩ := List.mem_flatMap.1 hc
  rcases List.mem_append.1 hc with hc | hc
  · exact .inl (isDigit_of_mem_bodyLines contents line hline c hc)
  · exact .inr (List.mem_singleton.1 hc)

theorem dash_notMem_body : '-' ∉ body contents := by
  intro hmem
  rcases isDigit_of_mem_body contents _ hmem with h | h
  · exact h.ne_dash rfl
  · contradiction

theorem filter_body : (body contents).filter (fun c => !Text.isWhitespace c) =
    Base64.encode contents := by
  have hlines : ∀ lines : List (List Char), (∀ line ∈ lines, ∀ c ∈ line, Base64.IsDigit c) →
      (lines.flatMap (· ++ ['\n'])).filter (fun c => !Text.isWhitespace c) = lines.flatten := by
    intro lines h
    induction lines with
    | nil => rfl
    | cons line lines ih =>
      rw [List.forall_mem_cons] at h
      have hline : line.filter (fun c => !Text.isWhitespace c) = line :=
        List.filter_eq_self.2 fun c hc => by rw [(h.1 c hc).isWhitespace, Bool.not_false]
      have hend : ['\n'].filter (fun c => !Text.isWhitespace c) = [] := rfl
      rw [List.flatMap_cons, List.filter_append, List.filter_append, hline, hend, ih h.2,
        List.append_nil, List.flatten_cons]
  rw [body, hlines _ (isDigit_of_mem_bodyLines contents), flatten_bodyLines]

/-- There are no headers. -/
theorem splitHeaders_body : splitHeaders (body contents) = ([], body contents) := by
  have hline : ∀ line ∈ bodyLines contents, line ≠ [] ∧ '\n' ∉ line := by
    intro line hline
    refine ⟨ne_nil_of_mem_wrap (by omega) hline, fun hmem => ?_⟩
    have hdigit := (isDigit_of_mem_bodyLines contents line hline _ hmem).isWhitespace
    contradiction
  have hreturn : '\r' ∉ body contents := by
    intro hmem
    rcases isDigit_of_mem_body contents _ hmem with h | h
    · have hdigit := h.isWhitespace
      contradiction
    · contradiction
  have hfeed : splitAtMarker? ['\n', '\n'] (body contents) = none := by
    rw [splitAtMarker?, body, afterMarker?_lines hline, Option.map_none]
  have hfeed' : splitAtMarker? ['\r', '\n', '\r', '\n'] (body contents) = none := by
    rw [← List.append_nil (body contents), splitAtMarker?, afterMarker?_append_of_notMem hreturn]
    rfl
  rw [splitHeaders, hfeed, hfeed']
  rfl

/-- What is skipped in front of what a block holds is the end of the first line. -/
theorem skipBlanks_body (cs : List Char) :
    skipBlanks ('\n' :: (body contents ++ endMarker ++ cs)) = body contents ++ endMarker ++ cs := by
  have hskip : ∀ {c : Char}, Base64.IsDigit c → ∀ cs, skipBlanks (c :: cs) = c :: cs := by
    intro c hc cs
    have hspace := hc.isWhitespace
    rw [skipBlanks, List.dropWhile_cons_of_neg]
    intro hblank
    simp only [Bool.or_eq_true, decide_eq_true_eq] at hblank
    rcases hblank with ((rfl | rfl) | rfl) | rfl
    all_goals contradiction
  have hfeed : ∀ cs, skipBlanks ('\n' :: cs) = skipBlanks cs := fun _ => rfl
  rw [hfeed, body]
  cases hlines : bodyLines contents with
  | nil => rfl
  | cons line lines =>
    have hline : line ∈ bodyLines contents := hlines ▸ List.mem_cons_self ..
    obtain ⟨c, line, rfl⟩ := List.exists_cons_of_ne_nil (ne_nil_of_mem_wrap (by omega) hline)
    have hc := isDigit_of_mem_bodyLines contents _ hline c (List.mem_cons_self ..)
    simp only [List.flatMap_cons, List.cons_append, hskip hc]

end Body

/-! ### Blocks -/

/-- The label of a block can be told from the dashes around it. -/
def IsWritable (block : PemBlock) : Prop := block.label ≠ "" ∧ '-' ∉ block.label.toList

instance (block : PemBlock) : Decidable (IsWritable block) := inferInstanceAs (Decidable (_ ∧ _))

/-- A block as it is written. -/
def rawBlock (block : PemBlock) : RawBlock :=
  ⟨block.label.toList, body block.contents, block.label.toList⟩

theorem toChars_append (block : PemBlock) (cs : List Char) : PemBlock.toChars block ++ cs =
    beginMarker ++ (block.label.toList ++ dashes ++ ('\n' :: (body block.contents ++ endMarker ++
      (block.label.toList ++ dashes ++ '\n' :: cs)))) := by
  simp [PemBlock.toChars, body, bodyLines]

/-- A block that is written is found. -/
theorem nextBlock?_toChars_append {block : PemBlock} (h : IsWritable block) (cs : List Char) :
    nextBlock? (PemBlock.toChars block ++ cs) =
      some (rawBlock block, skipBlanks ('\n' :: cs)) := by
  rw [nextBlock?_eq_some_iff, toChars_append]
  refine ⟨_, _, _, _, afterMarker?_self_append .., splitAtMarker?_append_of_notMem h.2 _, ?_,
    splitAtMarker?_append_of_notMem h.2 _, rfl⟩
  rw [skipBlanks_body]
  exact splitAtMarker?_append_of_notMem (dash_notMem_body _) _

theorem read_rawBlock {block : PemBlock} (h : IsWritable block) :
    (rawBlock block).read = .ok block := by
  have hlabel : block.label.toList ≠ [] := by simpa using h.1
  simp [RawBlock.read, rawBlock, splitHeaders_body, filter_body, Base64.decode?_encode, hlabel,
    Text.linesOf]

theorem rawBlocks_flatMap_toChars {blocks : List PemBlock}
    (h : ∀ block ∈ blocks, IsWritable block) :
    rawBlocks (blocks.flatMap PemBlock.toChars) = blocks.map rawBlock := by
  induction blocks with
  | nil => exact rawBlocks_of_none rfl
  | cons block blocks ih =>
    rw [List.forall_mem_cons] at h
    rw [List.flatMap_cons, rawBlocks_of_some (nextBlock?_toChars_append h.1 _), List.map_cons,
      rawBlocks_skipBlanks, ← ih h.2]
    exact congrArg _ (rawBlocks_congr rfl)

/-! ### First lines -/

theorem beginMarker_eq :
    beginMarker = ['-', '-', '-', '-', '-', 'B', 'E', 'G', 'I', 'N', ' '] := rfl

theorem endMarker_eq : endMarker = ['-', '-', '-', '-', '-', 'E', 'N', 'D', ' '] := rfl

theorem occurrences_beginMarker_append (cs : List Char) :
    occurrences beginMarker (beginMarker ++ cs) = occurrences beginMarker cs + 1 := by
  simp [beginMarker_eq, occurrences, Nat.add_comm]

theorem occurrences_endMarker_append (cs : List Char) :
    occurrences beginMarker (endMarker ++ cs) = occurrences beginMarker cs := by
  simp [beginMarker_eq, endMarker_eq, occurrences]

/-- A block that is written has one first line. -/
theorem occurrences_toChars_append {block : PemBlock} (h : IsWritable block) (cs : List Char) :
    occurrences beginMarker (PemBlock.toChars block ++ cs) = occurrences beginMarker cs + 1 := by
  have hdashes : ∀ ds,
      occurrences beginMarker (dashes ++ '\n' :: ds) = occurrences beginMarker ds := by
    intro ds
    rw [occurrences_append_cons (by decide) (by decide)]
    exact Nat.zero_add _
  have hlabel : ∀ ds,
      occurrences beginMarker (block.label.toList ++ ds) = occurrences beginMarker ds :=
    occurrences_append_of_notMem h.2
  have hbody : ∀ ds,
      occurrences beginMarker (body block.contents ++ ds) = occurrences beginMarker ds :=
    occurrences_append_of_notMem (dash_notMem_body _)
  simp only [toChars_append, List.append_assoc, occurrences_beginMarker_append, hlabel, hdashes,
    hbody, occurrences_endMarker_append]

theorem occurrences_flatMap_toChars {blocks : List PemBlock}
    (h : ∀ block ∈ blocks, IsWritable block) :
    occurrences beginMarker (blocks.flatMap PemBlock.toChars) = blocks.length := by
  induction blocks with
  | nil => rfl
  | cons block blocks ih =>
    rw [List.forall_mem_cons] at h
    rw [List.flatMap_cons, occurrences_toChars_append h.1, ih h.2, List.length_cons]

/-- What is written is read back. -/
theorem read_write {blocks : List PemBlock} (h : ∀ block ∈ blocks, IsWritable block) :
    read (write blocks) = .ok blocks := by
  rw [read_eq_ok_iff, write, String.toList_ofList, rawBlocks_flatMap_toChars h,
    List.forall₂_map_left_iff]
  exact ⟨List.forall₂_same.2 fun block hblock => read_rawBlock (h block hblock),
    occurrences_flatMap_toChars h⟩

end GridAuthz.Pem
