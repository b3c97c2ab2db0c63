set_option autoImplicit false

/-! # Computations that leave a trace

A result together with the steps that were noted on the way to it. Steps taken before a failure
stay. The result of a sequence does not depend on what is noted: `result_bind`. -/

namespace Phrasebook

/-- A result and the steps noted on the way to it. -/
structure Traced (σ ε α : Type) where
  steps : List σ
  result : Except ε α

namespace Traced

variable {σ ε α β : Type}

instance : Monad (Traced σ ε) where
  pure a := ⟨[], .ok a⟩
  bind x f :=
    match x.result with
    | .error e => ⟨x.steps, .error e⟩
    | .ok a => ⟨x.steps ++ (f a).steps, (f a).result⟩

/-- Notes a step. -/
def step (s : σ) : Traced σ ε Unit := ⟨[s], .ok ()⟩

def fail (e : ε) : Traced σ ε α := ⟨[], .error e⟩

/-- A result to which nothing was noted. -/
def lift (r : Except ε α) : Traced σ ε α := ⟨[], r⟩

instance : MonadLift (Except ε) (Traced σ ε) := ⟨lift⟩

@[simp] theorem result_pure (a : α) : (pure a : Traced σ ε α).result = .ok a := rfl

@[simp] theorem result_step (s : σ) : (step s : Traced σ ε Unit).result = .ok () := rfl

@[simp] theorem result_fail (e : ε) : (fail e : Traced σ ε α).result = .error e := rfl

@[simp] theorem result_lift (r : Except ε α) : (lift r : Traced σ ε α).result = r := rfl

@[simp] theorem result_bind (x : Traced σ ε α) (f : α → Traced σ ε β) :
    (x >>= f).result = x.result >>= fun a => (f a).result := by
  cases h : x.result <;> simp [bind, Except.bind, h]

end Traced

end Phrasebook
