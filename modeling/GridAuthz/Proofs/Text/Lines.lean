import GridAuthz.Proofs.Text.Cutting

/-!
# Lines and the white space around them

Trimming takes away the white space at both ends of a text and nothing else (`exists_eq_trimChars`,
`trimChars_append_blanks`), so the first character that is left is the first one that is no white space
(`head?_trimChars_eq_some_iff`). A text can be written in lines in several ways (`HasLines`), since a
carriage return before a line feed may belong to the line or to its end. Up to white space they are all
the same (`HasLines.map_trimChars`).
-/

namespace GridAuthz.Text

/-- There is nothing but white space. -/
def IsBlank (cs : List Char) : Prop := ∀ c ∈ cs, isWhitespace c = true

instance : DecidablePred IsBlank := fun cs => List.decidableBAll _ cs

/-! ### Trimming -/

theorem trimChars_cons {c : Char} (h : isWhitespace c = false) (cs : List Char) :
    trimChars (c :: cs) = c :: (cs.reverse.dropWhile isWhitespace).reverse := by
  rw [trimChars, List.dropWhile_cons_of_neg (by simp [h]), List.reverse_cons, List.dropWhile_append]
  split
  case isTrue hempty => simp [List.isEmpty_iff.1 hempty, h]
  case isFalse => simp

theorem trimChars_append_blanks {before after : List Char} (hbefore : IsBlank before)
    (hafter : IsBlank after) (cs : List Char) :
    trimChars (before ++ cs ++ after) = trimChars cs := by
  have hdrop : after.dropWhile isWhitespace = [] := List.dropWhile_eq_nil_iff.2 hafter
  rw [trimChars, List.append_assoc, List.dropWhile_append_of_pos hbefore, List.dropWhile_append,
    trimChars]
  split
  case isTrue hempty => simp [List.isEmpty_iff.1 hempty, hdrop]
  case isFalse =>
    rw [List.reverse_append, List.dropWhile_append_of_pos fun c hc =>
      hafter c (List.mem_reverse.1 hc)]

/-- Only white space is trimmed. -/
theorem exists_eq_trimChars (cs : List Char) : ∃ before after, IsBlank before ∧ IsBlank after ∧
    cs = before ++ trimChars cs ++ after := by
  refine ⟨cs.takeWhile isWhitespace,
    ((cs.dropWhile isWhitespace).reverse.takeWhile isWhitespace).reverse,
    fun c hc => List.mem_takeWhile_imp hc,
    fun c hc => List.mem_takeWhile_imp (List.mem_reverse.1 hc), ?_⟩
  rw [List.append_assoc, trimChars, ← List.reverse_append, List.takeWhile_append_dropWhile,
    List.reverse_reverse, List.takeWhile_append_dropWhile]

@[simp] theorem trimChars_trimChars (cs : List Char) : trimChars (trimChars cs) = trimChars cs := by
  obtain ⟨before, after, hbefore, hafter, hcs⟩ := exists_eq_trimChars cs
  conv_rhs => rw [hcs, trimChars_append_blanks hbefore hafter]

theorem trimChars_eq_nil_iff {cs : List Char} : trimChars cs = [] ↔ IsBlank cs := by
  constructor
  · intro h
    obtain ⟨before, after, hbefore, hafter, hcs⟩ := exists_eq_trimChars cs
    rw [h, List.append_nil] at hcs
    rw [hcs, IsBlank, List.forall_mem_append]
    exact ⟨hbefore, hafter⟩
  · intro h
    have htrim := trimChars_append_blanks h (List.forall_mem_nil _) []
    rwa [List.append_nil, List.append_nil] at htrim

/-- What is left after trimming starts with the first character that is no white space. -/
theorem head?_trimChars_eq_some_iff {cs : List Char} {c : Char} :
    (trimChars cs).head? = some c ↔ isWhitespace c = false ∧
      ∃ before after, IsBlank before ∧ cs = before ++ c :: after := by
  constructor
  · intro h
    have hbefore : IsBlank (cs.takeWhile isWhitespace) := fun d hd => List.mem_takeWhile_imp hd
    have hcs := List.takeWhile_append_dropWhile (p := isWhitespace) (l := cs)
    cases hdrop : cs.dropWhile isWhitespace with
    | nil =>
      rw [hdrop, List.append_nil] at hcs
      rw [trimChars_eq_nil_iff.2 (hcs ▸ hbefore)] at h
      cases h
    | cons d after =>
      have hd : isWhitespace d = false := by
        have hnot := cs.head_dropWhile_not isWhitespace (by simp [hdrop])
        simpa only [hdrop, List.head_cons] using hnot
      have htrim := trimChars_append_blanks hbefore (List.forall_mem_nil _) (d :: after)
      rw [List.append_nil, ← hdrop, hcs, hdrop, trimChars_cons hd] at htrim
      rw [htrim, List.head?_cons, Option.some.injEq] at h
      exact ⟨h ▸ hd, _, after, hbefore, by rw [← h, ← hdrop, hcs]⟩
  · rintro ⟨hc, before, after, hbefore, rfl⟩
    have htrim := trimChars_append_blanks hbefore (List.forall_mem_nil _) (c :: after)
    rw [List.append_nil] at htrim
    rw [htrim, trimChars_cons hc, List.head?_cons]

/-! ### Lines -/

/-- A text is written in lines. A line is ended by a line feed, or by a carriage return and a line feed;
the last one need not be. -/
inductive HasLines : List Char → List (List Char) → Prop where
  /-- The empty text has no lines. -/
  | nil : HasLines [] []
  /-- The last line is not ended. -/
  | last {line : List Char} (hne : line ≠ []) (hline : '\n' ∉ line) : HasLines line [line]
  /-- A line and its end in front of the others. -/
  | cons {line lineEnd text : List Char} {lines : List (List Char)} (hline : '\n' ∉ line)
    (hend : lineEnd = ['\n'] ∨ lineEnd = ['\r', '\n']) (htext : HasLines text lines) :
    HasLines (line ++ lineEnd ++ text) (line :: lines)

theorem HasLines.cons_char {c : Char} {text line : List Char} {lines : List (List Char)}
    (hc : c ≠ '\n') (h : HasLines text (line :: lines)) :
    HasLines (c :: text) ((c :: line) :: lines) := by
  cases h with
  | last hne hline =>
    exact .last (List.cons_ne_nil _ _) (List.not_mem_cons_of_ne_of_not_mem hc.symm hline)
  | cons hline hend htext =>
    exact .cons (List.not_mem_cons_of_ne_of_not_mem hc.symm hline) hend htext

theorem linesOf_newline (cs : List Char) : linesOf ('\n' :: cs) = [] :: linesOf cs := by
  rw [linesOf.eq_def]
  rfl

theorem linesOf_return_newline (cs : List Char) :
    linesOf ('\r' :: '\n' :: cs) = [] :: linesOf cs := by
  rw [linesOf.eq_def]
  rfl

theorem linesOf_singleton {c : Char} (h : c ≠ '\n') : linesOf [c] = [[c]] := by
  rw [linesOf.eq_def]
  simp [h]

theorem linesOf_cons_cons {c d : Char} {ds line : List Char} {lines : List (List Char)}
    (hc : c ≠ '\n') (hd : ¬(c = '\r' ∧ d = '\n')) (h : linesOf (d :: ds) = line :: lines) :
    linesOf (c :: d :: ds) = (c :: line) :: lines := by
  rw [linesOf.eq_def]
  simp only [hc, hd, h, if_false]

theorem linesOf_cons_ne_nil (c : Char) (cs : List Char) : linesOf (c :: cs) ≠ [] := by
  rw [linesOf.eq_def]
  dsimp only
  repeat' split
  all_goals exact List.cons_ne_nil _ _

/-- The lines of a text are lines that it can be written in. -/
theorem hasLines_linesOf (text : List Char) : HasLines text (linesOf text) := by
  fun_induction linesOf text with
  | case1 => exact .nil
  | case2 cs ih =>
    have h := HasLines.cons (List.not_mem_nil (a := '\n')) (.inl rfl) ih
    exact h
  | case3 c hc => exact .last (List.cons_ne_nil _ _) (by simpa using Ne.symm hc)
  | case4 c hc d ds hreturn ih =>
    obtain ⟨rfl, rfl⟩ := hreturn
    have h := HasLines.cons (List.not_mem_nil (a := '\n')) (.inr rfl) ih
    exact h
  | case5 c hc d ds hreturn hnil => exact absurd hnil (linesOf_cons_ne_nil d ds)
  | case6 c hc d ds hreturn line lines hlines ih => exact HasLines.cons_char hc (hlines ▸ ih)

theorem linesOf_of_notMem {line : List Char} (hne : line ≠ []) (h : '\n' ∉ line) :
    linesOf line = [line] := by
  induction line with
  | nil => exact absurd rfl hne
  | cons c cs ih =>
    obtain ⟨hc, hcs⟩ := not_or.1 (mt List.mem_cons.2 h)
    cases cs with
    | nil => exact linesOf_singleton (Ne.symm hc)
    | cons d ds =>
      refine linesOf_cons_cons (Ne.symm hc) (fun hreturn => ?_) (ih (List.cons_ne_nil d ds) hcs)
      exact hcs (hreturn.2 ▸ List.mem_cons_self ..)

/-- A line ends at the first line feed. It may be without the carriage return before that. -/
theorem linesOf_append_newline {line : List Char} (h : '\n' ∉ line) (text : List Char) :
    ∃ kept dropped, IsBlank dropped ∧ line = kept ++ dropped ∧
      linesOf (line ++ '\n' :: text) = kept :: linesOf text := by
  induction line with
  | nil => exact ⟨[], [], List.forall_mem_nil _, rfl, linesOf_newline text⟩
  | cons c cs ih =>
    obtain ⟨hc, hcs⟩ := not_or.1 (mt List.mem_cons.2 h)
    cases cs with
    | nil =>
      by_cases hreturn : c = '\r'
      · subst hreturn
        exact ⟨[], ['\r'], List.forall_mem_singleton.2 rfl, rfl, linesOf_return_newline text⟩
      · exact ⟨[c], [], List.forall_mem_nil _, rfl,
          linesOf_cons_cons (Ne.symm hc) (by simp [hreturn]) (linesOf_newline text)⟩
    | cons d ds =>
      obtain ⟨kept, dropped, hdropped, hline, hlines⟩ := ih hcs
      refine ⟨c :: kept, dropped, hdropped, by rw [hline, List.cons_append],
        linesOf_cons_cons (Ne.symm hc) (fun hreturn => ?_) hlines⟩
      exact hcs (hreturn.2 ▸ List.mem_cons_self ..)

theorem trimChars_append_blank {after : List Char} (h : IsBlank after) (cs : List Char) :
    trimChars (cs ++ after) = trimChars cs := trimChars_append_blanks (List.forall_mem_nil _) h cs

/-- Lines in which a text is written are its lines, but for white space around them. -/
theorem HasLines.map_trimChars {text : List Char} {lines : List (List Char)}
    (h : HasLines text lines) : lines.map trimChars = (linesOf text).map trimChars := by
  induction h with
  | nil => rfl
  | last hne hline => rw [linesOf_of_notMem hne hline]
  | @cons line lineEnd text lines hline hend _ ih =>
    -- A carriage return before the line feed is white space at the end of the line.
    obtain ⟨spaces, hspaces, hend, hnotMem⟩ : ∃ spaces, IsBlank spaces ∧
        lineEnd = spaces ++ ['\n'] ∧ '\n' ∉ line ++ spaces := by
      rcases hend with rfl | rfl
      · exact ⟨[], List.forall_mem_nil _, rfl, by simpa using hline⟩
      · exact ⟨['\r'], List.forall_mem_singleton.2 rfl, rfl, by simpa using hline⟩
    obtain ⟨kept, dropped, hdropped, hkept, hlines⟩ := linesOf_append_newline hnotMem text
    have htext : line ++ lineEnd ++ text = line ++ spaces ++ '\n' :: text := by simp [hend]
    rw [htext, hlines, List.map_cons, List.map_cons, ih, ← trimChars_append_blank hspaces line,
      hkept, trimChars_append_blank hdropped]

end GridAuthz.Text
