import SchemaCanvas.Layout.Diagram
import SchemaCanvas.Layout.Error

/-!
# Position generators

A generator places tables: it is given the places of the tables that have one and the names of those
that have none. It may fail, leave names out, or place tables that nobody asked for, and it may keep
a state from one call to the next. `Generator.recorded` keeps an account of the calls.
-/

namespace SchemaCanvas

/-- A computation that may call a generator with state `σ`. -/
abbrev Placing (σ : Type) := EStateM LayoutError σ

/-- Places tables: from the places that are taken and the names to place to new places. -/
abbrev Generator (σ : Type) := Positions → List String → Placing σ Positions

/-- What a generator was called with. -/
structure Call where
  existing : Positions
  names : List String
  deriving DecidableEq

namespace Generator

variable {σ : Type}

/-- The generator that computes its answer from its arguments alone. -/
def ofFunction (f : Positions → List String → Except LayoutError Positions) : Generator σ :=
  fun existing names s =>
    match f existing names with
    | .ok positions => .ok positions s
    | .error cause => .error cause s

/-- The generator together with the list of its calls; a call is noted before it runs. -/
def recorded (g : Generator σ) : Generator (σ × List Call) :=
  fun existing names s =>
    let calls := s.2 ++ [⟨existing, names⟩]
    match g existing names s.1 with
    | .ok positions t => .ok positions (t, calls)
    | .error cause t => .error cause (t, calls)

/-- The generator that always gives the same places. -/
def fixed (positions : Positions) : Generator σ :=
  ofFunction fun _ _ => .ok positions

/-- The height of a table in a stack. -/
def stackStep : Int :=
  100

/-- The places of a stack: each name below the one before it, the first with the number `i`. -/
def stack (bottom : Number) (placed : Positions) :
    (i : Int) → List String → Except LayoutError Positions
  | _, [] => .ok placed
  | i, name :: names => do
    let y ← LayoutError.ofNumber (bottom.add (.whole (stackStep * (i + 1))))
    stack bottom (placed.insert name ⟨.whole 0, y⟩) (i + 1) names

/-- The generator that stacks tables at the left margin, below all that have a place. -/
def stacked : Generator σ :=
  ofFunction fun existing names =>
    let bottom := match existing.values.map Position.y with
      | [] => .whole 0
      | y :: ys => Number.greatest y ys
    stack bottom ∅ 0 names

end Generator

end SchemaCanvas
