import Mathlib.Data.List.Chain
import GridAuthz.Proofs.Text.Whitespace

/-!
# What characters decompose into

What a character decomposes into does not decompose any further (`decompose_of_mem_decompose`), and
it is told from the ranges of the tables whether a character decomposes
(`testBit_decomposables_of_decompose`).

Checks of the tables look up code points for all entries of a table. So that this takes no long
time, they do it in search trees, which say the same as the tables (`decompositionOf_eq`) because
the rows of each table are in order.
-/

namespace GridAuthz.Text

/-! ### Search trees -/

/-- A search tree of rows. -/
inductive RowTree where
  /-- No rows. -/
  | leaf
  /-- A row with those in front of it and those behind it. -/
  | node (before : RowTree) (row : Decomposition.Row) (after : RowTree)

/-- The first row ends where the second one starts, or in front of it. -/
def IsBefore (row next : Decomposition.Row) : Prop := row.first + row.images.size ≤ next.first

instance (row next : Decomposition.Row) : Decidable (IsBefore row next) :=
  inferInstanceAs (Decidable (_ ≤ _))

instance : Trans IsBefore IsBefore IsBefore where
  trans h h' := Nat.le_trans h (Nat.le_trans (Nat.le_add_right _ _) h')

theorem find?_eq_none_iff {row : Decomposition.Row} {n : Nat} :
    row.find? n = none ↔ ¬(row.first ≤ n ∧ n < row.first + row.images.size) := by
  rw [Decomposition.Row.find?]
  split_ifs with hfirst
  · rw [Array.getElem?_eq_none_iff]
    omega
  · simp [hfirst]

namespace RowTree

/-- The rows one after the other. -/
def toList : RowTree → List Decomposition.Row
  | leaf => []
  | node before row after => before.toList ++ row :: after.toList

/-- The rows as a tree of the given depth. -/
def ofList : Nat → List Decomposition.Row → RowTree
  | 0, _ => leaf
  | depth + 1, rows =>
    match rows.drop (rows.length / 2) with
    | [] => leaf
    | row :: after => node (ofList depth (rows.take (rows.length / 2))) row (ofList depth after)

/-- What the rows say of a code point. -/
def find? (n : Nat) : RowTree → Option (List Nat)
  | leaf => none
  | node before row after =>
    bif Nat.ble row.first n then (row.images[n - row.first]?).or (after.find? n) else before.find? n

theorem toList_ofList {depth : Nat} {rows : List Decomposition.Row} (h : rows.length < 1 <<< depth) :
    (ofList depth rows).toList = rows := by
  induction depth generalizing rows with
  | zero => exact (List.length_eq_zero_iff.1 (by omega)).symm
  | succ depth ih =>
    rw [Nat.shiftLeft_succ] at h
    rw [ofList]
    cases hdrop : rows.drop (rows.length / 2) with
    | nil =>
      have hlength := List.drop_eq_nil_iff.1 hdrop
      exact (List.length_eq_zero_iff.1 (by omega)).symm
    | cons row after =>
      have hlength := congrArg List.length hdrop
      rw [List.length_drop, List.length_cons] at hlength
      have hbefore : (rows.take (rows.length / 2)).length < 1 <<< depth := by
        rw [List.length_take]
        omega
      dsimp only
      rw [toList, ih hbefore, ih (by omega), ← hdrop, List.take_append_drop]

/-- Where the rows are in order, the tree says what they say. -/
theorem find?_eq {tree : RowTree} (h : tree.toList.Pairwise IsBefore) (n : Nat) :
    tree.find? n = tree.toList.findSome? (·.find? n) := by
  induction tree with
  | leaf => rfl
  | node before row after ihBefore ihAfter =>
    obtain ⟨hbefore, hrest, hsplit⟩ := List.pairwise_append.1 h
    obtain ⟨hnext, hafter⟩ := List.pairwise_cons.1 hrest
    rw [find?, toList, List.findSome?_append, List.findSome?_cons, ← ihBefore hbefore,
      ← ihAfter hafter]
    by_cases hle : row.first ≤ n
    · have hnone : before.find? n = none := by
        rw [ihBefore hbefore, List.findSome?_eq_none_iff]
        intro other hother
        have hother : other.first + other.images.size ≤ row.first :=
          hsplit other hother row List.mem_cons_self
        exact find?_eq_none_iff.2 (by omega)
      rw [Nat.ble_eq_true_of_le hle, cond_true, hnone, Option.none_or, Decomposition.Row.find?,
        if_pos hle]
      cases row.images[n - row.first]? <;> rfl
    · have hble : Nat.ble row.first n = false := by
        rw [← Bool.not_eq_true, Nat.ble_eq]
        exact hle
      have hnone : after.find? n = none := by
        rw [ihAfter hafter, List.findSome?_eq_none_iff]
        intro other hother
        have hother : row.first + row.images.size ≤ other.first := hnext other hother
        exact find?_eq_none_iff.2 (by omega)
      rw [hble, cond_false, hnone, Decomposition.Row.find?, if_neg hle, Option.or_none]

end RowTree

/-! ### Decompositions -/

/-- The tables of decompositions. -/
def decompositionTables : List (List Decomposition.Row) := [
  Decomposition.latin, Decomposition.scripts, Decomposition.symbols, Decomposition.ideographs,
  Decomposition.presentation, Decomposition.mathematical]

/-- What the tables say of a code point, looked up in trees. -/
def lookUp? (n : Nat) : Option (List Nat) :=
  (decompositionTables.map (RowTree.ofList 8)).findSome? (·.find? n)

/-- What a code point decomposes into, looked up in trees. -/
def decompositionOf (n : Nat) : List Nat :=
  bif decomposables.testBit n then (lookUp? n).getD (Hangul.lettersOf (n - Hangul.syllableBase))
  else [n]

theorem isChain_of_mem_decompositionTables :
    ∀ rows ∈ decompositionTables, rows.length < 1 <<< 8 ∧ rows.IsChain IsBefore := by decide +kernel

/-- No table has letters of the first code points, or syllables. -/
theorem bounds_of_mem_decompositionRows :
    (decompositionRows.all fun row => 0xA0 ≤ row.first &&
      (row.first + row.images.size ≤ 0xAC00 || 0xD7A4 ≤ row.first)) = true := by decide +kernel

theorem findSome?_flatten_eq {tables : List (List Decomposition.Row)}
    (h : ∀ rows ∈ tables, rows.length < 1 <<< 8 ∧ rows.IsChain IsBefore) (n : Nat) :
    tables.flatten.findSome? (·.find? n) =
      (tables.map (RowTree.ofList 8)).findSome? (·.find? n) := by
  induction tables with
  | nil => rfl
  | cons rows tables ih =>
    obtain ⟨⟨hlength, hchain⟩, htables⟩ := List.forall_mem_cons.1 h
    have hrows : (RowTree.ofList 8 rows).toList = rows := RowTree.toList_ofList hlength
    have hfind : (RowTree.ofList 8 rows).find? n = rows.findSome? (·.find? n) := by
      rw [RowTree.find?_eq (by rwa [hrows, ← List.isChain_iff_pairwise]), hrows]
    rw [List.flatten_cons, List.findSome?_append, List.map_cons, List.findSome?_cons, hfind,
      ih htables]
    cases rows.findSome? (·.find? n) <;> rfl

theorem findSome?_decompositionRows (n : Nat) :
    decompositionRows.findSome? (·.find? n) = lookUp? n := by
  have hflatten : decompositionRows = decompositionTables.flatten := by
    simp [decompositionRows, decompositionTables]
  rw [hflatten, findSome?_flatten_eq isChain_of_mem_decompositionTables, lookUp?]

/-- The trees say what the tables say. -/
theorem decompositionOf_eq (n : Nat) : decompositionOf n = decomposeCodePoint n := by
  cases hmem : decomposables.testBit n with
  | false => rw [decompositionOf, hmem, cond_false, decomposeCodePoint_of_testBit hmem]
  | true =>
    have hbounds := List.all_eq_true.1 bounds_of_mem_decompositionRows
    simp only [Bool.and_eq_true, Bool.or_eq_true, decide_eq_true_eq] at hbounds
    rw [decompositionOf, hmem, cond_true, ← findSome?_decompositionRows, decomposeCodePoint,
      Hangul.syllableBase, Hangul.syllableCount, Hangul.leadCount, Hangul.vowelCount,
      Hangul.trailCount]
    cases hfind : decompositionRows.findSome? (·.find? n) with
    | some image =>
      obtain ⟨row, hrow, hrowfind⟩ := List.exists_of_findSome?_eq_some hfind
      have hrange : row.first ≤ n ∧ n < row.first + row.images.size := by
        by_contra hout
        rw [find?_eq_none_iff.2 hout] at hrowfind
        cases hrowfind
      obtain ⟨hlow, hsyllables⟩ := hbounds row hrow
      rw [if_neg (by omega), if_neg (by omega), Option.getD_some, Option.getD_some]
    | none =>
      rw [List.findSome?_eq_none_iff] at hfind
      rw [decomposables, testBit_bitsOf_eq_true_iff] at hmem
      obtain ⟨range, hrange, hfirst, hlast⟩ := hmem
      rcases List.mem_cons.1 hrange with rfl | hrange
      · simp only [Hangul.syllableBase, Hangul.syllableCount, Hangul.leadCount, Hangul.vowelCount,
          Hangul.trailCount] at hfirst hlast
        rw [if_neg (by omega), if_pos (by omega), Option.getD_none]
      · obtain ⟨row, hrow, rfl⟩ := List.mem_map.1 hrange
        have hout := find?_eq_none_iff.1 (hfind row hrow)
        have hlow := (hbounds row hrow).1
        dsimp only at hfirst hlast
        omega

/-! ### Pieces -/

theorem testBit_decomposables_of_decompositionEntries :
    (decompositionEntries.all fun entry => entry.1.all fun n => !decomposables.testBit n) = true := by
  decide +kernel

/-- Letters of syllables do not decompose. -/
theorem decomposeCodePoint_of_letter {n : Nat} (hfirst : 0x1100 ≤ n) (hlast : n ≤ 0x11FF) :
    decomposeCodePoint n = [n] := by
  have hletters : ∀ i < 256, decomposables.testBit (0x1100 + i) = false := by decide +kernel
  have hn := hletters (n - 0x1100) (by omega)
  rw [Nat.add_sub_cancel' hfirst] at hn
  exact decomposeCodePoint_of_testBit hn

/-- What a code point decomposes into is the code point itself, or it consists of plain code points
that do not decompose. -/
theorem decomposeCodePoint_of_mem {n m : Nat} (h : m ∈ decomposeCodePoint n) :
    decomposeCodePoint n = [n] ∨ isPlainCode m = true ∧ decomposeCodePoint m = [m] := by
  rcases decomposeCodePoint_cases n with hself | ⟨index, hindex, -, hletters⟩ | hentry
  · exact .inl hself
  · rw [hletters] at h
    obtain ⟨hfirst, hlast⟩ := bounds_of_mem_lettersOf hindex h
    exact .inr ⟨isPlainCode_of_mem_lettersOf hindex h, decomposeCodePoint_of_letter hfirst hlast⟩
  · have hplain := List.all_eq_true.1 isPlainCode_of_decompositionEntries _ hentry
    have hpiece := List.all_eq_true.1 testBit_decomposables_of_decompositionEntries _ hentry
    have hm := List.all_eq_true.1 hpiece m h
    exact .inr ⟨List.all_eq_true.1 hplain m h, decomposeCodePoint_of_testBit (by simpa using hm)⟩

theorem toNat_ofNat_of_mem_decomposeCodePoint {c : Char} {n : Nat}
    (h : n ∈ decomposeCodePoint c.toNat) : (Char.ofNat n).toNat = n := by
  rcases decomposeCodePoint_of_mem h with hself | ⟨hplain, -⟩
  · rw [hself, List.mem_singleton] at h
    rw [h, Char.ofNat_toNat]
  · exact toNat_ofNat_of_isPlainCode hplain

/-- What a character decomposes into does not decompose any further. -/
theorem decompose_of_mem_decompose {c d : Char} (h : d ∈ decompose c) : decompose d = [d] := by
  obtain ⟨m, hm, rfl⟩ := List.mem_map.1 h
  rcases decomposeCodePoint_of_mem hm with hself | ⟨hplain, hpiece⟩
  · rw [hself, List.mem_singleton] at hm
    rw [hm, Char.ofNat_toNat, decompose, hself, List.map_singleton, Char.ofNat_toNat]
  · rw [decompose, toNat_ofNat_of_isPlainCode hplain, hpiece, List.map_singleton]

theorem decomposeCodePoint_of_decompose {c : Char} (h : decompose c = [c]) :
    decomposeCodePoint c.toNat = [c.toNat] := by
  obtain ⟨n, hn, hc⟩ := List.map_eq_singleton_iff.1 h
  have htoNat := toNat_ofNat_of_mem_decomposeCodePoint (c := c) (n := n)
    (by rw [hn]; exact List.mem_singleton_self n)
  rw [hn, ← htoNat, hc]

/-- A code point that decomposes into itself is none of those that decompose. -/
theorem testBit_decomposables_of_decompose {c : Char} (h : decompose c = [c]) :
    decomposables.testBit c.toNat = false := by
  have hcode := (decompositionOf_eq c.toNat).trans (decomposeCodePoint_of_decompose h)
  cases hmem : decomposables.testBit c.toNat with
  | false => rfl
  | true =>
    rw [decompositionOf, hmem, cond_true, ← findSome?_decompositionRows] at hcode
    cases hfind : decompositionRows.findSome? (·.find? c.toNat) with
    | none =>
      rw [hfind, Option.getD_none, Hangul.lettersOf] at hcode
      split_ifs at hcode <;> simp at hcode
    | some image =>
      rw [hfind, Option.getD_some] at hcode
      obtain ⟨row, hrow, hrowfind⟩ := List.exists_of_findSome?_eq_some hfind
      have hentry : (image, c.toNat) ∈ decompositionEntries :=
        List.mem_flatMap.2 ⟨row, hrow, mem_zipIdx_of_find? hrowfind⟩
      have hpieces := List.all_eq_true.1 testBit_decomposables_of_decompositionEntries _ hentry
      simp [hcode, hmem] at hpieces

end GridAuthz.Text
