import Mathlib.Data.List.Forall2

/-!
# Steps in a row

A row of steps of which each may fail gives a result if all of them do.
-/

namespace GridAuthz

variable {ε α β : Type}

theorem bind_eq_ok_iff {x : Except ε α} {f : α → Except ε β} {b : β} :
    (x >>= f) = .ok b ↔ ∃ a, x = .ok a ∧ f a = .ok b := by
  cases x <;> simp [bind, Except.bind]

theorem bind_eq_error_iff {x : Except ε α} {f : α → Except ε β} {e : ε} :
    (x >>= f) = .error e ↔ x = .error e ∨ ∃ a, x = .ok a ∧ f a = .error e := by
  cases x <;> simp [bind, Except.bind]

/-- A step that only checks something has one way to succeed. -/
theorem check_bind_eq_ok_iff {x : Except ε Unit} {f : Unit → Except ε β} {b : β} :
    (x >>= f) = .ok b ↔ x = .ok () ∧ f () = .ok b := by
  cases x <;> simp [bind, Except.bind]

/-- A guard in front lets only those pass for whom it does not hold. -/
theorem guard_bind_eq_ok_iff {c : Prop} [Decidable c] {e : ε} {f : α → Except ε β}
    {y : Except ε β} {b : β} :
    (if c then (Except.error e : Except ε α) >>= f else y) = .ok b ↔ ¬c ∧ y = .ok b := by
  split <;> simp_all [bind, Except.bind]

/-- A row of two steps fails as the first of them that does. -/
theorem check_bind_eq_error_iff {x : Except ε Unit} {f : Unit → Except ε β} {e : ε} :
    (x >>= f) = .error e ↔ x = .error e ∨ x = .ok () ∧ f () = .error e := by
  cases x <;> simp [bind, Except.bind]

theorem guard_bind_eq_error_iff {c : Prop} [Decidable c] {e e' : ε} {f : α → Except ε β}
    {y : Except ε β} :
    (if c then (Except.error e : Except ε α) >>= f else y) = .error e' ↔
      c ∧ e = e' ∨ ¬c ∧ y = .error e' := by
  split <;> simp_all [bind, Except.bind]

theorem pure_eq_ok_iff {a b : α} : (pure a : Except ε α) = .ok b ↔ a = b := by
  simp [pure, Except.pure]

theorem map_eq_ok_iff {x : Except ε α} {f : α → β} {b : β} :
    x.map f = .ok b ↔ ∃ a, x = .ok a ∧ f a = b := by
  cases x <;> simp [Except.map]

/-! ### Any number of steps -/

variable {f : α → Except ε Unit} {as : List α}

theorem forM_eq_ok_iff : forM as f = .ok () ↔ ∀ a ∈ as, f a = .ok () := by
  induction as with
  | nil => simp [pure, Except.pure]
  | cons a as ih => rw [List.forM_cons, check_bind_eq_ok_iff, ih, List.forall_mem_cons]

/-- A row of steps fails as the first of them that does. -/
theorem forM_eq_error_iff [DecidableEq α] {e : ε} : forM as f = .error e ↔
    ∃ a ∈ as, (∀ b ∈ as.takeWhile (· ≠ a), f b = .ok ()) ∧ f a = .error e := by
  induction as with
  | nil => simp [pure, Except.pure]
  | cons a as ih =>
    cases ha : f a with
    | error e' =>
      have hcons : forM (a :: as) f = .error e' := by rw [List.forM_cons, ha]; rfl
      rw [hcons]
      constructor
      · intro h
        exact ⟨a, List.mem_cons_self .., by simp, ha.trans h⟩
      · rintro ⟨b, -, hbefore, hb⟩
        by_cases heq : a = b
        · rw [← ha, heq, hb]
        · have := hbefore a (by simp [heq])
          simp [ha] at this
    | ok =>
      have hcons : forM (a :: as) f = forM as f := by rw [List.forM_cons, ha]; rfl
      rw [hcons, ih]
      constructor
      · rintro ⟨b, hb, hbefore, hfail⟩
        have hne : a ≠ b := by
          rintro rfl
          simp [ha] at hfail
        refine ⟨b, List.mem_cons_of_mem a hb, ?_, hfail⟩
        rw [List.takeWhile_cons_of_pos (by simpa using hne), List.forall_mem_cons]
        exact ⟨ha, hbefore⟩
      · rintro ⟨b, hb, hbefore, hfail⟩
        have hne : a ≠ b := by
          rintro rfl
          simp [ha] at hfail
        rw [List.takeWhile_cons_of_pos (by simpa using hne), List.forall_mem_cons] at hbefore
        exact ⟨b, (List.mem_cons.1 hb).resolve_left hne.symm, hbefore.2, hfail⟩

variable {g h : α → Except ε β}

theorem mapM_congr (heq : ∀ a ∈ as, g a = h a) : as.mapM g = as.mapM h := by
  induction as with
  | nil => rfl
  | cons a as ih =>
    rw [List.forall_mem_cons] at heq
    rw [List.mapM_cons, List.mapM_cons, heq.1, ih heq.2]

/-- If one step succeeds wherever another does, and with the same, so does a row of them. -/
theorem mapM_eq_ok_of_imp (himp : ∀ a ∈ as, ∀ b, g a = .ok b → h a = .ok b) {bs : List β}
    (hg : as.mapM g = .ok bs) : as.mapM h = .ok bs := by
  induction as generalizing bs with
  | nil => exact hg
  | cons a as ih =>
    rw [List.forall_mem_cons] at himp
    simp only [List.mapM_cons, bind_eq_ok_iff] at hg ⊢
    obtain ⟨b, hb, bs, hbs, hpure⟩ := hg
    exact ⟨b, himp.1 b hb, bs, ih himp.2 hbs, hpure⟩

/-- Where a step succeeds on what something is written as, with what is made of it, a row of them
succeeds on what several are written as. -/
theorem mapM_eq_ok_iff {γ : Type} {write : γ → α} {make : γ → β}
    (hg : ∀ a b, g a = .ok b ↔ ∃ c, write c = a ∧ make c = b) {bs : List β} :
    as.mapM g = .ok bs ↔ ∃ cs : List γ, cs.map write = as ∧ cs.map make = bs := by
  induction as generalizing bs with
  | nil =>
    rw [List.mapM_nil, pure_eq_ok_iff]
    constructor
    · rintro rfl
      exact ⟨[], rfl, rfl⟩
    · rintro ⟨cs, hcs, rfl⟩
      rw [List.map_eq_nil_iff.1 hcs, List.map_nil]
  | cons a as ih =>
    simp only [List.mapM_cons, bind_eq_ok_iff, hg, ih, pure_eq_ok_iff]
    constructor
    · rintro ⟨_, ⟨c, rfl, rfl⟩, _, ⟨cs, rfl, rfl⟩, rfl⟩
      exact ⟨c :: cs, rfl, rfl⟩
    · rintro ⟨cs, hcs, rfl⟩
      obtain ⟨c, cs, rfl, rfl, rfl⟩ := List.map_eq_cons_iff.1 hcs
      exact ⟨_, ⟨c, rfl, rfl⟩, _, ⟨cs, rfl, rfl⟩, rfl⟩

/-- Where a step succeeds under a condition, a row of them succeeds if each meets it. -/
theorem mapM_eq_ok_iff_forall {p : α → Prop} {make : α → β}
    (hg : ∀ a b, g a = .ok b ↔ p a ∧ make a = b) {bs : List β} :
    as.mapM g = .ok bs ↔ (∀ a ∈ as, p a) ∧ as.map make = bs := by
  induction as generalizing bs with
  | nil => simp [pure_eq_ok_iff]
  | cons a as ih =>
    simp only [List.mapM_cons, bind_eq_ok_iff, hg, ih, pure_eq_ok_iff, List.forall_mem_cons,
      List.map_cons]
    constructor
    · rintro ⟨_, ⟨ha, rfl⟩, _, ⟨has, rfl⟩, rfl⟩
      exact ⟨⟨ha, has⟩, rfl⟩
    · rintro ⟨⟨ha, has⟩, rfl⟩
      exact ⟨_, ⟨ha, rfl⟩, _, ⟨has, rfl⟩, rfl⟩

/-! ### What each step gives -/

theorem mapM_eq_ok_iff_forall₂ {bs : List β} :
    as.mapM g = .ok bs ↔ List.Forall₂ (fun a b => g a = .ok b) as bs := by
  induction as generalizing bs with
  | nil => rw [List.mapM_nil, pure_eq_ok_iff, List.forall₂_nil_left_iff, eq_comm]
  | cons a as ih =>
    simp only [List.mapM_cons, bind_eq_ok_iff, ih, pure_eq_ok_iff, List.forall₂_cons_left_iff]
    constructor
    · rintro ⟨b, hb, bs, hbs, rfl⟩
      exact ⟨b, bs, hb, hbs, rfl⟩
    · rintro ⟨b, bs, hb, hbs, rfl⟩
      exact ⟨b, hb, bs, hbs, rfl⟩

theorem mapM_eq_some_iff_forall₂ {g : α → Option β} {bs : List β} :
    as.mapM g = some bs ↔ List.Forall₂ (fun a b => g a = some b) as bs := by
  induction as generalizing bs with
  | nil => rw [List.mapM_nil, Option.pure_def, Option.some.injEq, List.forall₂_nil_left_iff, eq_comm]
  | cons a as ih =>
    simp only [List.mapM_cons, Option.bind_eq_bind, Option.bind_eq_some_iff, ih, Option.pure_def,
      Option.some.injEq, List.forall₂_cons_left_iff]
    constructor
    · rintro ⟨b, hb, bs, hbs, rfl⟩
      exact ⟨b, bs, hb, hbs, rfl⟩
    · rintro ⟨b, bs, hb, hbs, rfl⟩
      exact ⟨b, hb, bs, hbs, rfl⟩

theorem mapM_eq_none_iff {g : α → Option β} : as.mapM g = none ↔ ∃ a ∈ as, g a = none := by
  induction as with
  | nil => simp
  | cons a as ih =>
    simp only [List.mem_cons, exists_eq_or_imp, ← ih, List.mapM_cons]
    cases g a with
    | none => simp
    | some b => cases as.mapM g <;> simp

end GridAuthz
