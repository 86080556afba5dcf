import GridAuthz.Proofs.Text.Words

/-!
# White space in prepared texts

A character that starts anew combines with nothing in front of it, so that a text is normalized
piece by piece where such characters stand (`nfkc_append`). A space starts anew, it combines with
nothing behind it either, and it folds to itself. The prepared form is therefore made of the words
between white space (`preparedWords_append_whitespace_append`), and white space at the end of a text
does not count (`prepare_append_whitespace`).
-/

namespace GridAuthz.Text

/-! ### Normalization, piece by piece -/

/-- The character combines with nothing in front of it. -/
structure StartsAnew (c : Char) : Prop where
  /-- It is no mark. -/
  starter : combiningClass c = 0
  /-- It is the second character of no pair. -/
  unpaired : ∀ a, composePair? a c = none

theorem orderMarks_append_starter {c : Char} (hc : combiningClass c = 0) (marks xs ys : List Char) :
    orderMarks marks (xs ++ c :: ys) = orderMarks marks xs ++ orderMarks [] (c :: ys) := by
  induction xs generalizing marks with
  | nil => simp only [List.nil_append, orderMarks, hc, if_true]
  | cons x xs ih =>
    rw [List.cons_append, orderMarks, orderMarks]
    by_cases hstarter : combiningClass x = 0
    · rw [if_pos hstarter, if_pos hstarter, ih, List.append_assoc, List.cons_append]
    · rw [if_neg hstarter, if_neg hstarter, ih]

theorem composeAfter_append_starter {c : Char} (hc : StartsAnew c) (starter : Char)
    (held : List Char) (lastClass : Option Nat) (xs ys : List Char) :
    composeAfter starter held lastClass (xs ++ c :: ys) =
      composeAfter starter held lastClass xs ++ compose (c :: ys) := by
  induction xs generalizing starter held lastClass with
  | nil =>
    rw [List.nil_append, composeAfter, composeAfter, compose, if_pos hc.starter]
    simp only [hc.unpaired, ite_self, hc.starter, if_true, List.cons_append]
  | cons x xs ih =>
    rw [List.cons_append, composeAfter, composeAfter]
    split
    · exact ih ..
    · split
      · rw [ih, List.cons_append, List.append_assoc]
      · exact ih ..

theorem compose_append_starter {c : Char} (hc : StartsAnew c) (xs ys : List Char) :
    compose (xs ++ c :: ys) = compose xs ++ compose (c :: ys) := by
  induction xs with
  | nil => rfl
  | cons x xs ih =>
    rw [List.cons_append, compose, compose]
    by_cases hstarter : combiningClass x = 0
    · rw [if_pos hstarter, if_pos hstarter, composeAfter_append_starter hc]
    · rw [if_neg hstarter, if_neg hstarter, ih, List.cons_append]

/-- What starts anew once it is decomposed is normalized without regard to what is in front of
it. -/
theorem nfkc_append (xs : List Char) {ys : List Char}
    (h : ∀ c ∈ (ys.flatMap decompose).head?, StartsAnew c) :
    nfkc (xs ++ ys) = nfkc xs ++ nfkc ys := by
  rw [nfkc, nfkc, nfkc, List.flatMap_append]
  cases hys : ys.flatMap decompose with
  | nil => rw [List.append_nil, orderMarks, compose, List.append_nil]
  | cons c cs =>
    have hc : StartsAnew c := h c (by rw [hys]; rfl)
    have horder : orderMarks [] (c :: cs) = c :: orderMarks [] cs := if_pos hc.starter
    rw [orderMarks_append_starter hc.starter, horder, compose_append_starter hc]

/-! ### Spaces -/

/-- No character has a primary composite with a space behind it. -/
theorem composePair?_space (c : Char) : composePair? c ' ' = none := by
  have hhangul : Hangul.compose? c.toNat ' '.toNat = none := by
    have hvowel : ¬Hangul.vowelBase ≤ 32 := by decide
    have htrail : ¬Hangul.trailBase < 32 := by decide
    simp [Hangul.compose?, hvowel, htrail]
  have htable : ∀ row ∈ primaryComposites, row.2.lookup ' '.toNat = none := by decide +kernel
  have hlookup : (primaryComposites.lookup c.toNat).bind (·.lookup ' '.toNat) = none := by
    rw [Option.bind_eq_none_iff]
    intro pairs hpairs
    obtain ⟨_, _, hsplit, -⟩ := List.lookup_eq_some_iff.1 hpairs
    exact htable (c.toNat, pairs) (by simp [hsplit])
  rw [composePair?, hhangul, hlookup]
  rfl

/-- Nor has a space one with a character behind it. -/
theorem composePair?_space_left (c : Char) : composePair? ' ' c = none := by
  have hhangul : Hangul.compose? ' '.toNat c.toNat = none := by
    have hlead : ¬Hangul.leadBase ≤ 32 := by decide
    have hsyllable : ¬Hangul.syllableBase ≤ 32 := by decide
    simp [Hangul.compose?, hlead, hsyllable]
  have htable : primaryComposites.lookup ' '.toNat = none := by decide +kernel
  rw [composePair?, hhangul, htable]
  rfl

theorem startsAnew_space : StartsAnew ' ' := ⟨rfl, composePair?_space⟩

theorem composeAfter_space (held : List Char) (lastClass : Option Nat) (cs : List Char) :
    composeAfter ' ' held lastClass cs = ' ' :: (held ++ compose cs) := by
  induction cs generalizing held lastClass with
  | nil => simp [composeAfter, compose]
  | cons c cs ih =>
    rw [composeAfter, compose]
    simp only [composePair?_space_left, ite_self]
    by_cases hstarter : combiningClass c = 0
    · rw [if_pos hstarter, if_pos hstarter]
    · rw [if_neg hstarter, if_neg hstarter, ih, List.append_assoc, List.singleton_append]

theorem nfkc_space_cons (cs : List Char) : nfkc (' ' :: cs) = ' ' :: nfkc cs := by
  have hspace : decompose ' ' = [' '] := rfl
  have hstarter : combiningClass ' ' = 0 := rfl
  rw [nfkc, nfkc, List.flatMap_cons, hspace, List.singleton_append, orderMarks, if_pos hstarter,
    List.nil_append, compose, if_pos hstarter, composeAfter_space, List.nil_append]

/-- What is on one side of a space is normalized without regard to the other. -/
theorem nfkc_append_space_append (xs ys : List Char) :
    nfkc (xs ++ ' ' :: ys) = nfkc xs ++ ' ' :: nfkc ys := by
  rw [nfkc_append, nfkc_space_cons]
  intro c hc
  obtain rfl : ' ' = c := Option.some.inj hc
  exact startsAnew_space

theorem foldCase_append_space_append (xs ys : List Char) :
    foldCase (xs ++ ' ' :: ys) = foldCase xs ++ ' ' :: foldCase ys := by
  have hspace : (foldCodePoint ' '.toNat).map Char.ofNat = [' '] := by decide +kernel
  rw [foldCase, foldCase, foldCase, List.flatMap_append, List.flatMap_cons, hspace,
    List.singleton_append]

/-! ### Words -/

/-- The words of a text in the form in which they are compared. -/
def preparedWords (cs : List Char) : List (List Char) :=
  wordsOf (foldCase (nfkc (cs.filterMap mapCharacter?)))

theorem prepareChars_eq (cs : List Char) :
    prepareChars cs = ' ' :: ([' ', ' '].intercalate (preparedWords cs) ++ [' ']) := rfl

@[simp] theorem preparedWords_nil : preparedWords [] = [] := rfl

/-- White space parts the words on its two sides. -/
theorem preparedWords_append_whitespace_append {w : Char} (hw : isWhitespace w = true)
    (xs ys : List Char) :
    preparedWords (xs ++ w :: ys) = preparedWords xs ++ preparedWords ys := by
  have hspace : mapCharacter? w = some ' ' := if_pos hw
  rw [preparedWords, List.filterMap_append, List.filterMap_cons_some hspace,
    nfkc_append_space_append, foldCase_append_space_append, wordsOf_append_space_append]
  rfl

theorem preparedWords_whitespace_cons {w : Char} (hw : isWhitespace w = true) (cs : List Char) :
    preparedWords (w :: cs) = preparedWords cs := by
  simpa using preparedWords_append_whitespace_append hw [] cs

theorem preparedWords_append_whitespace {ws : List Char} (hws : ∀ w ∈ ws, isWhitespace w = true)
    (xs : List Char) : preparedWords (xs ++ ws) = preparedWords xs := by
  induction ws generalizing xs with
  | nil => rw [List.append_nil]
  | cons w ws ih =>
    obtain ⟨hw, hrest⟩ := List.forall_mem_cons.1 hws
    have hnone : preparedWords ws = [] := by simpa using ih hrest []
    rw [preparedWords_append_whitespace_append hw, hnone, List.append_nil]

/-- White space at the end of a text does not count. -/
theorem prepare_append_whitespace {ws : List Char} (hws : ∀ w ∈ ws, isWhitespace w = true)
    (xs : List Char) : prepare (String.ofList (xs ++ ws)) = prepare (String.ofList xs) := by
  simp only [prepare, String.toList_ofList, prepareChars_eq, preparedWords_append_whitespace hws]

end GridAuthz.Text
