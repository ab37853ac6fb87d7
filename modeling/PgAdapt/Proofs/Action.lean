import Mathlib.Logic.Basic
import PgAdapt.Session

/-!
# Operations on a session

An operation gives something and leaves a session. Two operations cannot be told apart if both agree,
but for the wording of errors.
-/

namespace PgAdapt

/-! ## What an operation gives and what it leaves

An operation runs in a session. Here its two results are named: what it gives, a value or an error
(`PgAdapt.Action.result`), and the session that it leaves (`PgAdapt.Action.after`). A chain of
operations is opened by `PgAdapt.Action.result_bind` and `PgAdapt.Action.after_bind`: the second
operation runs in the session that the first one leaves, and only if the first one gives a value.
-/

/-- The events that have been reported since an earlier session. -/
def Session.eventsSince (s earlier : Session) : List Event :=
  s.events.drop earlier.events.length

namespace Action

variable {α β : Type}

/-- What an operation **gives** in a session. -/
def result (a : Action α) (s : Session) : Except AdaptError α := (a.run.run s).run.1

/-- The session that an operation **leaves**. -/
def after (a : Action α) (s : Session) : Session := (a.run.run s).run.2

/-! ### Chains of operations -/

@[simp]
theorem result_pure (x : α) (s : Session) : (pure x : Action α).result s = .ok x := rfl

@[simp]
theorem after_pure (x : α) (s : Session) : (pure x : Action α).after s = s := rfl

@[simp]
theorem result_throw (e : AdaptError) (s : Session) :
    (throw e : Action α).result s = .error e := rfl

@[simp]
theorem after_throw (e : AdaptError) (s : Session) : (throw e : Action α).after s = s := rfl

/-- What a chain of two operations gives. -/
theorem result_bind (a : Action α) (f : α → Action β) (s : Session) :
    (a >>= f).result s =
      match a.result s with
      | .ok x => (f x).result (a.after s)
      | .error e => .error e := by
  simp only [result, after, ExceptT.run_bind, StateT.run_bind, Id.run_bind]
  rcases (a.run.run s).run with ⟨_ | _, _⟩ <;> rfl

/-- The session that a chain of two operations leaves. -/
theorem after_bind (a : Action α) (f : α → Action β) (s : Session) :
    (a >>= f).after s =
      match a.result s with
      | .ok x => (f x).after (a.after s)
      | .error _ => a.after s := by
  simp only [result, after, ExceptT.run_bind, StateT.run_bind, Id.run_bind]
  rcases (a.run.run s).run with ⟨_ | _, _⟩ <;> rfl

theorem result_bind_ok {a : Action α} {s : Session} {x : α} (h : a.result s = .ok x)
    (f : α → Action β) : (a >>= f).result s = (f x).result (a.after s) := by
  rw [result_bind, h]

/-- A chain of two operations gives something exactly if both do. -/
theorem result_bind_eq_ok_iff {a : Action α} {f : α → Action β} {s : Session} {y : β} :
    (a >>= f).result s = .ok y ↔
      ∃ x, a.result s = .ok x ∧ (f x).result (a.after s) = .ok y := by
  rw [result_bind]
  constructor
  · intro h
    rcases ha : a.result s with e | x <;> rw [ha] at h
    · cases h
    · exact ⟨x, rfl, h⟩
  · rintro ⟨x, hx, h⟩
    rw [hx]
    exact h

theorem after_bind_ok {a : Action α} {s : Session} {x : α} (h : a.result s = .ok x)
    (f : α → Action β) : (a >>= f).after s = (f x).after (a.after s) := by
  rw [after_bind, h]

@[simp]
theorem result_map (g : α → β) (a : Action α) (s : Session) :
    (g <$> a).result s = (a.result s).map g := by
  simp only [result, ExceptT.run_map, StateT.run_map, Id.run_map]

@[simp]
theorem after_map (g : α → β) (a : Action α) (s : Session) : (g <$> a).after s = a.after s := by
  simp only [after, ExceptT.run_map, StateT.run_map, Id.run_map]

@[simp]
theorem result_ofExcept (x : Except AdaptError α) (s : Session) : (ofExcept x).result s = x := by
  cases x <;> rfl

@[simp]
theorem after_ofExcept (x : Except AdaptError α) (s : Session) : (ofExcept x).after s = s := by
  cases x <;> rfl

/-! ### Single operations -/

@[simp]
theorem result_fresh (s : Session) : fresh.result s = .ok s.next := rfl

@[simp]
theorem after_fresh (s : Session) : fresh.after s = { s with next := s.next + 1 } := rfl

@[simp]
theorem result_report (event : Event) (s : Session) : (report event).result s = .ok () := rfl

@[simp]
theorem after_report (event : Event) (s : Session) :
    (report event).after s = { s with events := s.events ++ [event] } := rfl

@[simp]
theorem result_connection (id : ConnectionId) (s : Session) :
    (connection id).result s = .ok (s.connections id) := rfl

@[simp]
theorem after_connection (id : ConnectionId) (s : Session) : (connection id).after s = s := rfl

@[simp]
theorem result_setConnection (id : ConnectionId) (connection : Connection) (s : Session) :
    (setConnection id connection).result s = .ok () := rfl

@[simp]
theorem after_setConnection (id : ConnectionId) (connection : Connection) (s : Session) :
    (setConnection id connection).after s =
      { s with connections := assign s.connections id connection } := rfl

@[simp]
theorem result_registry (id : RegistryId) (s : Session) :
    (registry id).result s = .ok (s.registries id) := rfl

@[simp]
theorem after_registry (id : RegistryId) (s : Session) : (registry id).after s = s := rfl

@[simp]
theorem result_transformer (id : TransformerId) (s : Session) :
    (transformer id).result s = .ok (s.transformers id) := rfl

@[simp]
theorem after_transformer (id : TransformerId) (s : Session) : (transformer id).after s = s := rfl

@[simp]
theorem result_setRegistry (id : RegistryId) (registry : Registry) (s : Session) :
    (setRegistry id registry).result s = .ok () := rfl

@[simp]
theorem after_setRegistry (id : RegistryId) (registry : Registry) (s : Session) :
    (setRegistry id registry).after s =
      { s with registries := assign s.registries id registry } := rfl

@[simp]
theorem result_setTransformer (id : TransformerId) (cache : Transformer) (s : Session) :
    (setTransformer id cache).result s = .ok () := rfl

@[simp]
theorem after_setTransformer (id : TransformerId) (cache : Transformer) (s : Session) :
    (setTransformer id cache).after s =
      { s with transformers := assign s.transformers id cache } := rfl

@[simp]
theorem result_newTransformer (ctx : Context) (s : Session) :
    (newTransformer ctx).result s = .ok ⟨s.next⟩ := rfl

@[simp]
theorem after_newTransformer (ctx : Context) (s : Session) :
    (newTransformer ctx).after s =
      { s with
        next := s.next + 1
        transformers := assign s.transformers ⟨s.next⟩ { context := ctx } } := rfl

end Action

/-! ## Operations that look alike

Two outcomes are **alike** if both are the same value, or both are errors of the same code:
`PgAdapt.Alike`. The messages of the errors may differ, and they do where the name of a codec is
part of them. Two operations are alike if they have outcomes that are alike in every session and
leave the same session behind, `PgAdapt.Action.Alike`. Both are kept by whatever comes next in a
chain of operations.
-/

variable {α β : Type}

/-! ### Outcomes -/

/-- The same value, or errors **of the same code**. -/
def Alike (r r' : Except AdaptError α) : Prop :=
  r.mapError AdaptError.code = r'.mapError AdaptError.code

namespace Alike

theorem refl (r : Except AdaptError α) : Alike r r := rfl

/-- Errors of the same code. -/
theorem error {e e' : AdaptError} (h : e.code = e'.code) :
    Alike (.error e : Except AdaptError α) (.error e') := congrArg Except.error h

/-- Outcomes that are alike are both the same value, or both errors. -/
theorem cases {r r' : Except AdaptError α} (h : Alike r r') :
    (∃ x, r = .ok x ∧ r' = .ok x) ∨
      ∃ e e', r = .error e ∧ r' = .error e' ∧ e.code = e'.code := by
  rcases r with e | x <;> rcases r' with e' | x'
  · exact .inr ⟨e, e', rfl, rfl, Except.error.inj h⟩
  · cases h
  · cases h
  · obtain rfl : x = x' := Except.ok.inj h
    exact .inl ⟨x, rfl, rfl⟩

/-- A value goes on the same way from both outcomes, an error stays an error. -/
theorem map {r r' : Except AdaptError α} (h : Alike r r') {f g : α → β} (hfg : ∀ x, f x = g x) :
    Alike (r.map f) (r'.map g) := by
  obtain ⟨x, rfl, rfl⟩ | ⟨e, e', rfl, rfl, he⟩ := h.cases
  · exact congrArg Except.ok (hfg x)
  · exact error he

theorem bind {r r' : Except AdaptError α} (h : Alike r r') {f g : α → Except AdaptError β}
    (hfg : ∀ x, Alike (f x) (g x)) : Alike (r >>= f) (r' >>= g) := by
  obtain ⟨x, rfl, rfl⟩ | ⟨e, e', rfl, rfl, he⟩ := h.cases
  · exact hfg x
  · exact error he

end Alike

/-! ### Operations -/

namespace Action

/-- Operations that have outcomes **alike** in every session, and leave the same session. -/
def Alike (a a' : Action α) : Prop :=
  ∀ s, PgAdapt.Alike (a.result s) (a'.result s) ∧ a.after s = a'.after s

namespace Alike

theorem refl (a : Action α) : Alike a a := fun s => ⟨.refl (a.result s), rfl⟩

theorem ofExcept {r r' : Except AdaptError α} (h : PgAdapt.Alike r r') :
    Alike (ofExcept r) (ofExcept r') := by
  intro s
  rw [result_ofExcept, result_ofExcept, after_ofExcept, after_ofExcept]
  exact ⟨h, rfl⟩

/-- Whatever comes next, operations that are alike stay alike. -/
theorem bind {a a' : Action α} (h : Alike a a') (f : α → Action β) :
    Alike (a >>= f) (a' >>= f) := by
  intro s
  obtain ⟨hresult, hafter⟩ := h s
  rw [result_bind, result_bind, after_bind, after_bind, hafter]
  obtain ⟨x, hx, hx'⟩ | ⟨e, e', hx, hx', he⟩ := hresult.cases
  · rw [hx, hx']
    exact ⟨.refl _, rfl⟩
  · rw [hx, hx']
    exact ⟨.error he, rfl⟩

end Alike

end Action

end PgAdapt
