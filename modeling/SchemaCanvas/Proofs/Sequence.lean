/-!
# Steps in sequence

A step with a state either answers or fails, and leaves a state in both cases. A sequence of two
steps answers when both do (`bind_eq_ok`); the first failure is the failure of the sequence
(`bind_of_error`). The same holds of computations without a state (`except_bind_eq_ok`).
-/

namespace SchemaCanvas

variable {ε σ α β : Type}

instance decidableEqResult [DecidableEq ε] [DecidableEq σ] [DecidableEq α] :
    DecidableEq (EStateM.Result ε σ α)
  | .ok a s, .ok b t => decidable_of_iff (a = b ∧ s = t) (by rw [EStateM.Result.ok.injEq])
  | .error e s, .error f t => decidable_of_iff (e = f ∧ s = t) (by rw [EStateM.Result.error.injEq])
  | .ok .., .error .. => isFalse nofun
  | .error .., .ok .. => isFalse nofun

/-- A sequence goes on with the answer of its first step, from the state that the step leaves. -/
theorem bind_of_ok {x : EStateM ε σ α} {f : α → EStateM ε σ β} {s t : σ} {a : α}
    (h : x s = .ok a t) : (x >>= f) s = f a t := by
  show EStateM.bind x f s = f a t
  rw [EStateM.bind, h]

/-- A sequence fails as its first step does. -/
theorem bind_of_error {x : EStateM ε σ α} {f : α → EStateM ε σ β} {s t : σ} {e : ε}
    (h : x s = .error e t) : (x >>= f) s = .error e t := by
  show EStateM.bind x f s = .error e t
  rw [EStateM.bind, h]

/-- A sequence answers exactly if its first step answers and the second one does from there. -/
theorem bind_eq_ok {x : EStateM ε σ α} {f : α → EStateM ε σ β} {s t : σ} {b : β} :
    (x >>= f) s = .ok b t ↔ ∃ a u, x s = .ok a u ∧ f a u = .ok b t := by
  cases h : x s with
  | ok a u =>
    rw [bind_of_ok h]
    constructor
    · exact fun hf => ⟨a, u, rfl, hf⟩
    · rintro ⟨_, _, he, hf⟩
      cases he
      exact hf
  | error e u =>
    rw [bind_of_error h]
    constructor
    · exact nofun
    · rintro ⟨_, _, he, _⟩
      cases he

/-- A sequence of computations without a state answers exactly if both of them do. -/
theorem except_bind_eq_ok {x : Except ε α} {f : α → Except ε β} {b : β} :
    x >>= f = .ok b ↔ ∃ a, x = .ok a ∧ f a = .ok b := by
  cases x with
  | ok a => exact ⟨fun h => ⟨a, rfl, h⟩, fun ⟨_, h, hf⟩ => by cases h; exact hf⟩
  | error e => exact ⟨nofun, fun ⟨_, h, _⟩ => nomatch h⟩

end SchemaCanvas
