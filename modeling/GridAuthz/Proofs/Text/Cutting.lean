import Mathlib.Data.List.TakeDrop
import Mathlib.Data.List.TakeWhile
import GridAuthz.Text.Cut
import GridAuthz.Text.Whitespace

/-!
# Cutting and trimming

What the operations that cut a text up say about the text: the two sides of the first or last
occurrence of a character (`cutAt?_eq_some_iff`, `cutAtLast?_eq_some_iff`) and of the first
occurrence of a text that never overlaps itself (`cutAtText?_eq_some_iff`), the pieces between all
occurrences (`eq_of_splitOn_eq`, `splitOn_intercalate_eq_flatMap`), and what trimming leaves of a text
that starts with no white space (`exists_trimChars_eq`).
-/

namespace GridAuthz.Text

/-! ### The first occurrence -/

theorem cutAt?_eq_some_iff {c : Char} {cs before after : List Char} :
    cutAt? c cs = some (before, after) ↔ cs = before ++ c :: after ∧ c ∉ before := by
  rw [cutAt?, List.span_eq_takeWhile_dropWhile]
  constructor
  · intro h
    split at h
    case h_1 b d rest heq =>
      cases h
      obtain ⟨htake, hdrop⟩ := Prod.mk.inj heq
      have hd : d = c := by
        have hne : cs.dropWhile (fun x => decide (x ≠ c)) ≠ [] := hdrop ▸ List.cons_ne_nil d after
        have hnot := cs.head_dropWhile_not (fun x => decide (x ≠ c)) hne
        simp only [hdrop, List.head_cons] at hnot
        simpa using hnot
      refine ⟨?_, fun hmem => ?_⟩
      · rw [← hd, ← htake, ← hdrop, List.takeWhile_append_dropWhile]
      · rw [← htake] at hmem
        simpa using List.mem_takeWhile_imp hmem
    case h_2 => simp at h
  · rintro ⟨rfl, hmem⟩
    have hbefore : ∀ x ∈ before, decide (x ≠ c) = true := by
      intro x hx
      simp only [decide_eq_true_eq]
      rintro rfl
      exact hmem hx
    rw [List.takeWhile_append_of_pos hbefore, List.dropWhile_append_of_pos hbefore,
      List.takeWhile_cons_of_neg (by simp), List.dropWhile_cons_of_neg (by simp), List.append_nil]

/-- A text has one first occurrence. -/
theorem append_cons_inj {c : Char} {before before' after after' : List Char} (h : c ∉ before)
    (h' : c ∉ before') (heq : before ++ c :: after = before' ++ c :: after') :
    before = before' ∧ after = after' := by
  have hcut := cutAt?_eq_some_iff.2 ⟨heq, h'⟩
  rw [cutAt?_eq_some_iff.2 ⟨rfl, h⟩] at hcut
  exact Prod.mk.inj (Option.some.inj hcut)

/-! ### The last occurrence -/

theorem cutAtLast?_eq_some_iff {c : Char} {cs before after : List Char} :
    cutAtLast? c cs = some (before, after) ↔ cs = before ++ c :: after ∧ c ∉ after := by
  rw [cutAtLast?, Option.map_eq_some_iff]
  constructor
  · rintro ⟨⟨after', before'⟩, h, heq⟩
    obtain ⟨hcs, hmem⟩ := cutAt?_eq_some_iff.1 h
    obtain ⟨rfl, rfl⟩ := Prod.mk.inj heq
    refine ⟨?_, by simpa using hmem⟩
    rw [← List.reverse_reverse cs, hcs]
    simp
  · rintro ⟨rfl, hmem⟩
    exact ⟨(after.reverse, before.reverse), cutAt?_eq_some_iff.2 ⟨by simp, by simpa using hmem⟩,
      by simp⟩

/-! ### The first occurrence of a text -/

/-- No ending of the text but the whole and the empty one is also a beginning, so that two
occurrences of the text never overlap. -/
def IsUnbordered (text : List Char) : Prop :=
  ∀ k < text.length, 0 < k → ¬text.drop k <+: text

instance (text : List Char) : Decidable (IsUnbordered text) :=
  inferInstanceAs (Decidable (∀ k < text.length, _))

section Separator

variable {separator cs before after : List Char}

/-- What starts with an unbordered text holds all of it before another occurrence. -/
theorem IsUnbordered.prefix_of_prefix_append (h : IsUnbordered separator) (hne : before ≠ [])
    (hstart : separator <+: before ++ (separator ++ after)) : separator <+: before := by
  rcases List.prefix_or_prefix_of_prefix hstart (List.prefix_append ..) with hle | ⟨rest, hrest⟩
  · exact hle
  -- Otherwise what is left of the text, behind `before`, is also its beginning.
  · rw [← hrest, List.prefix_append_right_inj, hrest] at hstart
    have hover : rest <+: separator :=
      List.prefix_of_prefix_length_le hstart (List.prefix_append ..)
        (by rw [← hrest, List.length_append]; omega)
    cases rest with
    | nil =>
      rw [List.append_nil] at hrest
      exact hrest ▸ List.prefix_rfl
    | cons c rest =>
      have hlt : before.length < separator.length := by
        rw [← hrest, List.length_append, List.length_cons]
        omega
      have hdrop : separator.drop before.length = c :: rest := by rw [← hrest, List.drop_left]
      exact absurd (hdrop ▸ hover) (h before.length hlt (List.length_pos_iff.2 hne))

theorem cutAtText?_eq_some_iff (hne : separator ≠ []) (h : IsUnbordered separator) :
    cutAtText? separator cs = some (before, after) ↔
      cs = before ++ (separator ++ after) ∧ ¬separator <:+: before := by
  induction cs generalizing before with
  | nil => simp [cutAtText?, hne]
  | cons c cs ih =>
    rw [cutAtText?]
    split_ifs with hstart
    · rw [List.isPrefixOf_iff_prefix] at hstart
      obtain ⟨rest, hrest⟩ := hstart
      rw [← hrest, List.drop_left, Option.some.injEq, Prod.mk.injEq]
      constructor
      · rintro ⟨rfl, rfl⟩
        exact ⟨rfl, by simpa using hne⟩
      · rintro ⟨heq, hinfix⟩
        have hnil : before = [] := by
          by_contra hbefore
          exact hinfix (h.prefix_of_prefix_append hbefore ⟨rest, heq⟩).isInfix
        subst hnil
        exact ⟨rfl, List.append_cancel_left heq⟩
    · rw [List.isPrefixOf_iff_prefix] at hstart
      simp only [Option.map_eq_some_iff, Prod.exists, Prod.mk.injEq]
      constructor
      · rintro ⟨before', after', hcut, rfl, rfl⟩
        obtain ⟨rfl, hinfix⟩ := ih.1 hcut
        refine ⟨rfl, fun hcons => ?_⟩
        rcases List.infix_cons_iff.1 hcons with hcons | hcons
        · exact hstart (hcons.trans (List.prefix_append (c :: before') _))
        · exact hinfix hcons
      · rintro ⟨heq, hinfix⟩
        cases before with
        | nil => exact absurd ⟨after, heq.symm⟩ hstart
        | cons d before =>
          obtain ⟨rfl, rfl⟩ := List.cons.inj heq
          exact ⟨before, after, ih.2 ⟨rfl, fun hcons => hinfix (List.infix_cons hcons)⟩, rfl, rfl⟩

end Separator

/-! ### All occurrences -/

section Pieces

variable {c : Char} {xs ys : List Char}

/-- No piece has the separator in it. -/
theorem notMem_of_mem_splitOn {piece : List Char} (h : piece ∈ xs.splitOn c) : c ∉ piece := by
  induction xs generalizing piece with
  | nil =>
    rw [List.splitOn_nil, List.mem_singleton] at h
    simp [h]
  | cons x xs ih =>
    rw [List.splitOn_cons_eq_if_modifyHead] at h
    split at h
    case isTrue =>
      obtain rfl | h := List.mem_cons.1 h
      · exact List.not_mem_nil
      · exact ih h
    case isFalse hne =>
      cases hsplit : xs.splitOn c with
      | nil => exact absurd hsplit (List.splitOn_ne_nil c xs)
      | cons first rest =>
        rw [hsplit] at h ih
        rw [List.modifyHead_cons] at h
        obtain rfl | h := List.mem_cons.1 h
        · have hx : x ≠ c := by simpa using hne
          exact List.not_mem_cons_of_ne_of_not_mem hx.symm (ih (List.mem_cons_self ..))
        · exact ih (List.mem_cons_of_mem _ h)

/-- A text is determined by its pieces. -/
theorem eq_of_splitOn_eq (h : xs.splitOn c = ys.splitOn c) : xs = ys := by
  have hxs : [c].intercalate (xs.splitOn c) = xs := List.intercalate_splitOn c
  rw [← hxs, h, List.intercalate_splitOn]

/-- A text without the separator in front of another belongs to its first piece. -/
theorem splitOn_append_of_notMem (h : c ∉ xs) {piece : List Char} {pieces : List (List Char)}
    (hys : ys.splitOn c = piece :: pieces) :
    (xs ++ ys).splitOn c = (xs ++ piece) :: pieces := by
  induction xs with
  | nil => exact hys
  | cons x xs ih =>
    obtain ⟨hne, hxs⟩ := not_or.1 (mt List.mem_cons.2 h)
    have hrest := ih hxs
    simp only [List.splitOn] at hrest ⊢
    rw [List.cons_append, List.splitOnP_cons_eq_if_modifyHead, if_neg (by simpa using Ne.symm hne),
      hrest]
    rfl

/-- Texts put together with separators have the pieces of all of them. -/
theorem splitOn_intercalate_eq_flatMap {texts : List (List Char)} (h : texts ≠ []) :
    ([c].intercalate texts).splitOn c = texts.flatMap (·.splitOn c) := by
  induction texts with
  | nil => exact absurd rfl h
  | cons text texts ih =>
    cases texts with
    | nil => simp
    | cons next texts =>
      rw [List.intercalate_cons_cons, List.append_assoc, List.singleton_append,
        List.splitOn_append_cons_self, ih (by simp), List.flatMap_cons (x := text)]

/-- A separator before each text, or before the first and between all. -/
theorem cons_intercalate_eq_flatMap {texts : List (List Char)} (h : texts ≠ []) :
    c :: [c].intercalate texts = texts.flatMap (c :: ·) := by
  induction texts with
  | nil => exact absurd rfl h
  | cons text texts ih =>
    cases texts with
    | nil => simp
    | cons next texts =>
      rw [List.intercalate_cons_cons, List.append_assoc, List.singleton_append, ih (by simp),
        List.flatMap_cons (x := text), List.cons_append]

/-- A text is its first piece and the others with the separator before each. -/
theorem eq_append_flatMap_of_splitOn {piece : List Char} {pieces : List (List Char)}
    (h : xs.splitOn c = piece :: pieces) : xs = piece ++ pieces.flatMap (c :: ·) := by
  have hxs : [c].intercalate (xs.splitOn c) = xs := List.intercalate_splitOn c
  have hcons : c :: xs = c :: (piece ++ pieces.flatMap (c :: ·)) := by
    rw [← hxs, h, cons_intercalate_eq_flatMap (List.cons_ne_nil piece pieces), List.flatMap_cons,
      List.cons_append]
  exact (List.cons.inj hcons).2

theorem subset_of_mem_splitOn {piece : List Char} (h : piece ∈ xs.splitOn c) : piece ⊆ xs := by
  obtain ⟨first, rest, hsplit⟩ := List.exists_cons_of_ne_nil (List.splitOn_ne_nil c xs)
  rw [eq_append_flatMap_of_splitOn hsplit]
  rw [hsplit] at h
  rcases List.mem_cons.1 h with rfl | hrest
  · exact List.subset_append_left ..
  · intro x hx
    exact List.mem_append_right _ (List.mem_flatMap.2 ⟨piece, hrest, List.mem_cons_of_mem c hx⟩)

end Pieces

/-! ### Trimming -/

/-- Of a text that starts with another character than white space, and has one more of them, only
the white space at the end is trimmed. -/
theorem exists_trimChars_eq {a b : Char} (ha : isWhitespace a = false)
    (hb : isWhitespace b = false) (xs ys : List Char) :
    ∃ kept dropped, ys = kept ++ dropped ∧ (∀ c ∈ dropped, isWhitespace c = true) ∧
      trimChars (a :: (xs ++ b :: ys)) = a :: (xs ++ b :: kept) := by
  refine ⟨(ys.reverse.dropWhile isWhitespace).reverse, (ys.reverse.takeWhile isWhitespace).reverse,
    ?_, ?_, ?_⟩
  · rw [← List.reverse_append, List.takeWhile_append_dropWhile, List.reverse_reverse]
  · intro c hc
    exact List.mem_takeWhile_imp (List.mem_reverse.1 hc)
  · have hdrop : (ys.reverse ++ b :: (xs.reverse ++ [a])).dropWhile isWhitespace =
        ys.reverse.dropWhile isWhitespace ++ b :: (xs.reverse ++ [a]) := by
      rw [List.dropWhile_append]
      split
      case isTrue hempty => simp [List.isEmpty_iff.1 hempty, hb]
      case isFalse => rfl
    have hreverse : (a :: (xs ++ b :: ys)).reverse = ys.reverse ++ b :: (xs.reverse ++ [a]) := by
      simp
    rw [trimChars, List.dropWhile_cons_of_neg (by simp [ha]), hreverse, hdrop]
    simp

theorem trimChars_eq_self {cs : List Char} (h : ∀ c ∈ cs, isWhitespace c = false) :
    trimChars cs = cs := by
  have hkeep : ∀ ds : List Char, (∀ c ∈ ds, isWhitespace c = false) →
      ds.dropWhile isWhitespace = ds := by
    intro ds hds
    cases ds with
    | nil => rfl
    | cons d ds => rw [List.dropWhile_cons_of_neg (by simp [hds d])]
  rw [trimChars, hkeep cs h, hkeep _ (by simpa using h), List.reverse_reverse]

end GridAuthz.Text
