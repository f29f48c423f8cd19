import SchemaCanvas.Picture.Selection
import SchemaCanvas.Placement.Generator

/-!
# Resolving a diagram

The picture of a diagram shows the tables that the diagram selects. Tables whose place is not known
are placed by a generator, which is called once for all of them, and not at all when there are none.
-/

namespace SchemaCanvas

variable {σ : Type}

/-- The places of names that a generator gives; it must place them all. Places of other names are
dropped, and for no names the generator is not called. -/
def Generator.placeAll (g : Generator σ) (existing : Positions) (names : List String) :
    Placing σ Positions :=
  if names = [] then pure ∅
  else do
    let answer ← g existing names
    let missing := names.filter fun name => !answer.contains name
    if missing = [] then
      pure (Registry.ofList (names.filterMap fun name => (answer.get? name).map (name, ·)))
    else throw (.unplaced missing)

/-- The places of all tables of a selection. -/
def Selection.place (s : Selection) (g : Generator σ) : Placing σ Positions := do
  let generated ← g.placeAll s.placed s.unplaced
  return s.complete generated

/-- The diagram of a name. -/
def DiagramSet.find (diagrams : DiagramSet) (name : String) : Placing σ Diagram :=
  match diagrams.get? name with
  | some diagram => pure diagram
  | none => throw (.unknownDiagram name)

/-- The picture of a diagram. -/
def DiagramSet.resolve (diagrams : DiagramSet) (name : String) (schema : Schema)
    (g : Generator σ) : Placing σ Picture := do
  let diagram ← diagrams.find name
  let positions ← (diagram.select schema).place g
  return Picture.draw schema positions

end SchemaCanvas
