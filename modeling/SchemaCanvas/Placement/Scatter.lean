import SchemaCanvas.Placement.Generator
import SchemaCanvas.Random.MersenneTwister

/-!
# The scatter layout

New tables go to random points of a fixed box. The points depend on the seed alone, so the same seed
gives the same layout again.
-/

namespace SchemaCanvas.Scatter

/-- What can be chosen of a scatter layout: the seed, the size of the box and the space around it.
Without a seed the layout is seeded by `entropy`. -/
structure Options where
  seed : Option Number
  width : Option Number
  height : Option Number
  margin : Option Number
  entropy : Nat

/-- The options of a layout for which nothing is chosen. -/
def Options.standard : Options :=
  ⟨none, some (.whole 800), some (.whole 600), some (.whole 50), 0⟩

/-- The prime modulo which real numbers are reduced to whole numbers. -/
def modulus : Nat :=
  Nat.pow 2 61 - 1

/-- The residue of a magnitude, given in units of the smallest positive real number. Modulo the
prime that unit is a power of two, since the sixty-first power of two is one. -/
def residue (units : Nat) : Nat :=
  units * Nat.pow 2 24 % modulus

/-- The residue that stands for infinity. -/
def infinityResidue : Nat :=
  314159

/-- A signed residue as a natural number of 64 bits; minus one is not used and minus two stands for
it. -/
def seedOfResidue (negative : Bool) (n : Nat) : Nat :=
  if negative ∧ n ≠ 0 then Nat.pow 2 64 - (if n = 1 then 2 else n) else n

/-- The natural number that seeds the generator for a number: the size of a whole number, and the
signed residue of a real one. -/
def seedOf : Number → Nat
  | .whole n => n.natAbs
  | .real (.finite negative units _) => seedOfResidue negative (residue units)
  | .real (.infinite negative) => seedOfResidue negative infinityResidue
  | .real .nan => 0

/-- A coordinate from a draw: a point between nothing and `extent`, past the margin. -/
def coordinate (margin extent : Option Number) (draw : Binary64) : Except LayoutError Number := do
  let extent ← extent.elim (.error .missingOption) .ok
  let offset ← LayoutError.ofNumber (extent.scale draw)
  let margin ← margin.elim (.error .missingOption) .ok
  let n ← LayoutError.ofNumber do (← margin.add offset).round
  return .whole n

/-- The places of names, drawn one after another, each abscissa before its ordinate, put into
`placed`. -/
def scatter (o : Options) (m : MersenneTwister) (placed : Positions) :
    List String → Except LayoutError Positions
  | [] => .ok placed
  | name :: names => do
    let (a, m) := m.draw
    let x ← coordinate o.margin o.width a
    let (b, m) := m.draw
    let y ← coordinate o.margin o.height b
    scatter o m (placed.insert name ⟨x, y⟩) names

/-- The places of new tables at random points. -/
def place (o : Options) (_existing : Positions) (names : List String) :
    Except LayoutError Positions :=
  match names with
  | [] => .ok ∅
  | _ => scatter o (.ofSeed (o.seed.elim o.entropy seedOf)) ∅ names

end SchemaCanvas.Scatter
