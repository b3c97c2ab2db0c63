set_option autoImplicit false

/-! # Computations that may break off

A computation gives a value, or it fails with an error that is reported; where it would go beyond a
limit that is set to numbers and texts, it breaks off and reports nothing. -/

namespace Phrasebook

/-- How a computation ends. -/
inductive Attempt (ε α : Type) where
  | ok (value : α)
  | error (error : ε)
  | overflow
  deriving DecidableEq

namespace Attempt

variable {ε δ α β : Type}

instance : Monad (Attempt ε) where
  pure := .ok
  bind x f :=
    match x with
    | .ok a => f a
    | .error e => .error e
    | .overflow => .overflow

/-- A computation that stays within the limits. -/
def ofExcept : Except ε α → Attempt ε α
  | .ok a => .ok a
  | .error e => .error e

instance : MonadLift (Except ε) (Attempt ε) := ⟨ofExcept⟩

/-- A value that is there only within the limits. -/
def ofOption : Option α → Attempt ε α
  | some a => .ok a
  | none => .overflow

/-- Breaking off taken for one more error. -/
def toExcept (f : ε → δ) (overflow : δ) : Attempt ε α → Except δ α
  | .ok a => .ok a
  | .error e => .error (f e)
  | .overflow => .error overflow

@[simp] theorem pure_eq_ok (a : α) : (pure a : Attempt ε α) = .ok a := rfl

@[simp] theorem ok_bind (a : α) (f : α → Attempt ε β) : (Attempt.ok a >>= f) = f a := rfl

@[simp] theorem error_bind (e : ε) (f : α → Attempt ε β) :
    (Attempt.error e >>= f) = .error e := rfl

@[simp] theorem overflow_bind (f : α → Attempt ε β) :
    ((Attempt.overflow : Attempt ε α) >>= f) = .overflow := rfl

@[simp] theorem liftM_ok (a : α) : (liftM (.ok a : Except ε α) : Attempt ε α) = .ok a := rfl

@[simp] theorem liftM_error (e : ε) :
    (liftM (.error e : Except ε α) : Attempt ε α) = .error e := rfl

@[simp] theorem ofOption_some (a : α) : (ofOption (some a) : Attempt ε α) = .ok a := rfl

@[simp] theorem ofOption_none : (ofOption none : Attempt ε α) = .overflow := rfl

theorem bind_eq_ok {x : Attempt ε α} {f : α → Attempt ε β} {b : β} :
    (x >>= f) = .ok b ↔ ∃ a, x = .ok a ∧ f a = .ok b := by
  cases x <;> simp

theorem bind_eq_error {x : Attempt ε α} {f : α → Attempt ε β} {e : ε} :
    (x >>= f) = .error e ↔ x = .error e ∨ ∃ a, x = .ok a ∧ f a = .error e := by
  cases x <;> simp

theorem bind_eq_overflow {x : Attempt ε α} {f : α → Attempt ε β} :
    (x >>= f) = .overflow ↔ x = .overflow ∨ ∃ a, x = .ok a ∧ f a = .overflow := by
  cases x <;> simp

theorem liftM_eq_ok {r : Except ε α} {a : α} :
    (liftM r : Attempt ε α) = .ok a ↔ r = .ok a := by
  cases r <;> simp

theorem liftM_eq_error {r : Except ε α} {e : ε} :
    (liftM r : Attempt ε α) = .error e ↔ r = .error e := by
  cases r <;> simp

theorem liftM_ne_overflow {r : Except ε α} : (liftM r : Attempt ε α) ≠ .overflow := by
  cases r <;> simp

theorem ofOption_eq_ok {o : Option α} {a : α} :
    (ofOption o : Attempt ε α) = .ok a ↔ o = some a := by
  cases o <;> simp

theorem toExcept_eq_ok {x : Attempt ε α} {f : ε → δ} {overflow : δ} {a : α} :
    x.toExcept f overflow = .ok a ↔ x = .ok a := by
  cases x <;> simp [toExcept]

theorem toExcept_eq_error {x : Attempt ε α} {f : ε → δ} {overflow e : δ} :
    x.toExcept f overflow = .error e ↔
      (∃ e', x = .error e' ∧ f e' = e) ∨ x = .overflow ∧ overflow = e := by
  cases x <;> simp [toExcept]

end Attempt

end Phrasebook
