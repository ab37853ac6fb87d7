import Mathlib.Data.List.Forall2

/-!
# Computations that may fail

What is known when a computation in `Except` has succeeded: a chain has succeeded exactly if each
of its members has (`PgAdapt.bind_eq_ok_iff`), and going through a list has succeeded exactly if
each step has (`PgAdapt.mapM_eq_ok_iff`).

And what is known when one has failed: a chain fails with the error of the first member that fails
(`PgAdapt.bind_eq_error_iff`), and so does going through a list (`PgAdapt.FailsFirst`,
`PgAdapt.mapM_eq_error_iff`).
-/

namespace PgAdapt

variable {ε α β : Type}

/-- A chain of two computations succeeds exactly if both do. -/
theorem bind_eq_ok_iff {a : Except ε α} {f : α → Except ε β} {y : β} :
    (a >>= f) = .ok y ↔ ∃ x, a = .ok x ∧ f x = .ok y := by
  cases a with
  | error e =>
    constructor
    · intro h
      cases h
    · rintro ⟨x, hx, -⟩
      cases hx
  | ok x =>
    constructor
    · intro h
      exact ⟨x, rfl, h⟩
    · rintro ⟨x', hx', h⟩
      cases hx'
      exact h

theorem map_eq_ok_iff {a : Except ε α} {f : α → β} {y : β} :
    a.map f = .ok y ↔ ∃ x, a = .ok x ∧ f x = y := by
  cases a with
  | error e =>
    constructor
    · intro h
      cases h
    · rintro ⟨x, hx, -⟩
      cases hx
  | ok x =>
    constructor
    · intro h
      exact ⟨x, rfl, Except.ok.inj h⟩
    · rintro ⟨x', hx', rfl⟩
      cases hx'
      rfl

theorem map_eq_error_iff {a : Except ε α} {f : α → β} {e : ε} :
    a.map f = .error e ↔ a = .error e := by
  rcases a with e' | x
  · constructor <;> rintro ⟨⟩ <;> rfl
  · constructor <;> rintro ⟨⟩

theorem mapError_eq_ok_iff {ε' : Type} {a : Except ε α} {f : ε → ε'} {x : α} :
    a.mapError f = .ok x ↔ a = .ok x := by
  rcases a with e | y
  · constructor <;> rintro ⟨⟩
  · constructor <;> rintro ⟨⟩ <;> rfl

/-- A computation succeeds if it does not fail. -/
theorem exists_eq_ok_iff {a : Except ε α} : (∃ x, a = .ok x) ↔ ∀ e, a ≠ .error e := by
  rcases a with e | x <;> simp

/-- A chain of two computations fails with the error of the first one, or of the second one if the
first one succeeds. -/
theorem bind_eq_error_iff {a : Except ε α} {f : α → Except ε β} {e : ε} :
    (a >>= f) = .error e ↔ a = .error e ∨ ∃ x, a = .ok x ∧ f x = .error e := by
  cases a with
  | error e' =>
    change Except.error e' = .error e ↔ _
    simp
  | ok x =>
    change f x = .error e ↔ _
    simp

/-- A chain of two computations fails as the first one does if the second one never fails. -/
theorem bind_eq_error_iff_of_ok {a : Except ε α} {f : α → Except ε β} {e : ε}
    (h : ∀ x, a = .ok x → ∃ y, f x = .ok y) : (a >>= f) = .error e ↔ a = .error e := by
  rw [bind_eq_error_iff]
  refine or_iff_left ?_
  rintro ⟨x, hx, he⟩
  obtain ⟨y, hy⟩ := h x hx
  rw [hy] at he
  cases he

/-- **Going through a list** succeeds exactly if each step does. -/
theorem mapM_eq_ok_iff {f : α → Except ε β} {l : List α} {l' : List β} :
    l.mapM f = .ok l' ↔ List.Forall₂ (fun a b => f a = .ok b) l l' := by
  induction l generalizing l' with
  | nil =>
    rw [List.mapM_nil, List.forall₂_nil_left_iff]
    exact ⟨fun h => (Except.ok.inj h).symm, fun h => h ▸ rfl⟩
  | cons a l ih =>
    rw [List.mapM_cons, bind_eq_ok_iff, List.forall₂_cons_left_iff]
    constructor
    · rintro ⟨b, hb, h⟩
      obtain ⟨rest, hrest, h⟩ := bind_eq_ok_iff.mp h
      cases h
      exact ⟨b, rest, hb, ih.mp hrest, rfl⟩
    · rintro ⟨b, rest, hb, hrest, rfl⟩
      exact ⟨b, hb, bind_eq_ok_iff.mpr ⟨rest, ih.mpr hrest, rfl⟩⟩

/-! ### The first failure -/

/-- Going through a list **fails first** with an error: it is the error of a member, and it works out
for all members before. -/
def FailsFirst (f : α → Except ε β) (l : List α) (e : ε) : Prop :=
  ∃ before a after, l = before ++ a :: after ∧ (∀ b ∈ before, ∃ x, f b = .ok x) ∧ f a = .error e

section FailsFirst

variable {f : α → Except ε β} {a : α} {l l' : List α} {e : ε}

@[simp]
theorem not_failsFirst_nil : ¬FailsFirst f [] e := by
  rintro ⟨before, a, after, h, -⟩
  exact List.append_ne_nil_of_right_ne_nil before (List.cons_ne_nil a after) h.symm

theorem failsFirst_cons_iff :
    FailsFirst f (a :: l) e ↔ f a = .error e ∨ (∃ x, f a = .ok x) ∧ FailsFirst f l e := by
  constructor
  · rintro ⟨_ | ⟨b, before⟩, a', after, h, hbefore, he⟩
    · cases h
      exact .inl he
    · cases h
      rw [List.forall_mem_cons] at hbefore
      exact .inr ⟨hbefore.1, before, a', after, rfl, hbefore.2, he⟩
  · rintro (he | ⟨ha, before, a', after, rfl, hbefore, he⟩)
    · exact ⟨[], a, l, rfl, by simp, he⟩
    · exact ⟨a :: before, a', after, rfl, List.forall_mem_cons.mpr ⟨ha, hbefore⟩, he⟩

/-- What fails first in two lists one after the other fails first in one of them. -/
theorem failsFirst_append_iff : FailsFirst f (l ++ l') e ↔
    FailsFirst f l e ∨ (∀ a ∈ l, ∃ x, f a = .ok x) ∧ FailsFirst f l' e := by
  induction l with
  | nil => simp
  | cons a l ih =>
    rw [List.cons_append, failsFirst_cons_iff, failsFirst_cons_iff, ih, List.forall_mem_cons,
      or_assoc, and_or_left, and_assoc]

/-- Something fails first exactly if anything fails. -/
theorem exists_failsFirst_iff : (∃ e, FailsFirst f l e) ↔ ∃ a ∈ l, ∃ e, f a = .error e := by
  induction l with
  | nil => simp
  | cons a l ih =>
    simp only [failsFirst_cons_iff, List.exists_mem_cons_iff, exists_or, exists_and_left, ih]
    rcases f a with e | x <;> simp

/-- What fails as a list fails first succeeds exactly if it works out for each member. -/
theorem exists_eq_ok_iff_of_failsFirst {γ : Type} {c : Except ε γ}
    (h : ∀ e, c = .error e ↔ FailsFirst f l e) :
    (∃ y, c = .ok y) ↔ ∀ a ∈ l, ∃ x, f a = .ok x := by
  have hfails : (∃ e, c = .error e) ↔ ∃ a ∈ l, ∃ e, f a = .error e :=
    (exists_congr h).trans exists_failsFirst_iff
  simpa [exists_eq_ok_iff] using not_congr hfails

/-- **Going through a list** fails with the error of the first step that fails. -/
theorem mapM_eq_error_iff : l.mapM f = .error e ↔ FailsFirst f l e := by
  induction l with
  | nil =>
    rw [List.mapM_nil, iff_false_right not_failsFirst_nil]
    exact nofun
  | cons a l ih =>
    rw [List.mapM_cons, bind_eq_error_iff, failsFirst_cons_iff, ← ih, ← exists_and_right]
    refine or_congr_right (exists_congr fun x => and_congr_right fun _ => ?_)
    exact bind_eq_error_iff_of_ok fun rest _ => ⟨x :: rest, rfl⟩

end FailsFirst

end PgAdapt
