import SchemaCanvas.Picture.Refresh
import SchemaCanvas.Proofs.Sequence

/-!
# Computations that do not depend on the state

A generator that computes its answer from its arguments alone makes every computation that calls it
answer the same in every state (`Placing.Stateless`). So diagrams that are filled in twice with such
a generator are filled in alike (`DiagramSet.stateless_fill`).
-/

namespace SchemaCanvas

variable {σ α β : Type}

/-- Whether a computation answers or fails in the same way in every state, and leaves the state. -/
def Placing.Stateless (p : Placing σ α) : Prop :=
  ∀ s t, (∃ a, p s = .ok a s ∧ p t = .ok a t) ∨ ∃ cause, p s = .error cause s ∧ p t = .error cause t

namespace Placing

/-- An answer without a computation is stateless. -/
theorem stateless_pure (a : α) : Stateless (pure a : Placing σ α) :=
  fun _ _ => .inl ⟨a, rfl, rfl⟩

/-- A failure without a computation is stateless. -/
theorem stateless_throw (cause : LayoutError) : Stateless (throw cause : Placing σ α) :=
  fun _ _ => .inr ⟨cause, rfl, rfl⟩

/-- A sequence is stateless when both of its parts are, whatever the first one answers. -/
theorem Stateless.bind {p : Placing σ α} {f : α → Placing σ β} (hp : Stateless p)
    (hf : ∀ a, Stateless (f a)) : Stateless (p >>= f) := by
  intro s t
  rcases hp s t with ⟨a, hs, ht⟩ | ⟨cause, hs, ht⟩
  · rw [bind_of_ok hs, bind_of_ok ht]
    exact hf a s t
  · exact .inr ⟨cause, bind_of_error hs, bind_of_error ht⟩

/-- What a computation answers in one state it answers in every other. -/
theorem Stateless.eq_ok {p : Placing σ α} (hp : Stateless p) {a : α} {s s' : σ}
    (h : p s = .ok a s') (t : σ) : p t = .ok a t := by
  rcases hp s t with ⟨b, hs, ht⟩ | ⟨cause, hs, -⟩
  · rw [h] at hs
    cases hs
    exact ht
  · rw [h] at hs
    cases hs

end Placing

open Placing

variable (f : Positions → List String → Except LayoutError Positions)

/-- A generator that is a function is stateless. -/
theorem Generator.stateless_ofFunction (existing : Positions) (names : List String) :
    Stateless (Generator.ofFunction f existing names : Placing σ Positions) := by
  intro s t
  unfold Generator.ofFunction
  cases f existing names with
  | ok positions => exact .inl ⟨positions, rfl, rfl⟩
  | error cause => exact .inr ⟨cause, rfl, rfl⟩

/-- Checking the answers of a generator that is a function keeps it stateless. -/
theorem Generator.stateless_placeAll (existing : Positions) (names : List String) :
    Stateless ((Generator.ofFunction f : Generator σ).placeAll existing names) := by
  unfold Generator.placeAll
  split
  · exact stateless_pure ∅
  · refine (Generator.stateless_ofFunction f existing names).bind ?_
    intro answer
    dsimp only
    split
    · exact stateless_pure _
    · exact stateless_throw _

/-- Filling in the places of a diagram with a generator that is a function is stateless. -/
theorem Diagram.stateless_fill (d : Diagram) :
    Stateless (d.fill (Generator.ofFunction f : Generator σ)) := by
  unfold Diagram.fill
  dsimp only
  split
  · exact stateless_pure d
  · exact (Generator.stateless_placeAll f _ _).bind fun _ => stateless_pure _

/-- Filling in the places of diagrams one after another with such a generator is stateless. -/
theorem DiagramSet.stateless_fillItems (items : List (String × Diagram)) :
    Stateless (DiagramSet.fillItems (Generator.ofFunction f : Generator σ) items) := by
  induction items with
  | nil => exact stateless_pure []
  | cons item items ih =>
    refine (item.2.stateless_fill f).bind ?_
    intro d
    exact ih.bind fun more => stateless_pure ((item.1, d) :: more)

/-- A generator that computes from its arguments fills diagrams in alike in every state. -/
theorem DiagramSet.stateless_fill (diagrams : DiagramSet) :
    Stateless (diagrams.fill (Generator.ofFunction f : Generator σ)) :=
  (DiagramSet.stateless_fillItems f diagrams.items).bind fun items =>
    stateless_pure (Registry.ofList items)

end SchemaCanvas
