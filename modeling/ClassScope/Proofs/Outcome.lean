import Mathlib.Tactic.Common

/-!
# Steps that may fail

How a step that follows another one goes on, by what the first one gives.
-/

namespace ClassScope

variable {ε ε' α β : Type}

@[simp]
theorem ok_bind (a : α) (f : α → Except ε β) : (Except.ok a >>= f) = f a := rfl

@[simp]
theorem error_bind (e : ε) (f : α → Except ε β) : (Except.error e >>= f) = .error e := rfl

@[simp]
theorem mapError_ok (f : ε → ε') (a : α) : (Except.ok a : Except ε α).mapError f = .ok a := rfl

@[simp]
theorem mapError_error (f : ε → ε') (e : ε) :
    (Except.error e : Except ε α).mapError f = .error (f e) := rfl

@[simp]
theorem mapError_eq_ok {f : ε → ε'} {x : Except ε α} {a : α} :
    x.mapError f = .ok a ↔ x = .ok a := by
  cases x <;> simp

/-- What a step gives may be changed afterwards. -/
theorem map_eq_ok {f : α → β} {x : Except ε α} {b : β} :
    f <$> x = .ok b ↔ ∃ a, x = .ok a ∧ f a = b := by
  cases x with
  | error e => simp [Functor.map, Except.map]
  | ok a => simp [Functor.map, Except.map]

/-- Two steps give something when the first does and the second does with it. -/
theorem bind_eq_ok {x : Except ε α} {f : α → Except ε β} {b : β} :
    x >>= f = .ok b ↔ ∃ a, x = .ok a ∧ f a = .ok b := by
  cases x with
  | error e => simp
  | ok a => simp

/-- Two steps fail when the first does, or when it gives something with which the second fails. -/
theorem bind_eq_error {x : Except ε α} {f : α → Except ε β} {e : ε} :
    x >>= f = .error e ↔ x = .error e ∨ ∃ a, x = .ok a ∧ f a = .error e := by
  cases x with
  | error e => simp
  | ok a => simp

/-- What a result that may be nothing holds when its fault is forgotten. -/
theorem toOption_join_eq_some {x : Except ε (Option α)} {a : α} :
    x.toOption.join = some a ↔ x = .ok (some a) := by
  cases x <;> simp [Except.toOption]

/-- Two results that may be nothing are the same when they fail alike and hold the same. -/
theorem eq_of_holds_iff {x y : Except ε (Option α)} (herror : ∀ e, x = .error e ↔ y = .error e)
    (hsome : ∀ a, x = .ok (some a) ↔ y = .ok (some a)) : x = y := by
  match x with
  | .error e => exact ((herror e).1 rfl).symm
  | .ok (some a) => exact ((hsome a).1 rfl).symm
  | .ok none =>
    match y with
    | .error e => exact (herror e).2 rfl
    | .ok (some a) => exact (hsome a).2 rfl
    | .ok none => rfl

end ClassScope
