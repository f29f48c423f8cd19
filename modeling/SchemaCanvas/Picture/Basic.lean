import SchemaCanvas.Layout.Diagram
import SchemaCanvas.Schema.Basic

/-!
# Pictures

A picture is all that is needed to draw a diagram: the tables with their places, and the foreign
keys between two of them.
-/

namespace SchemaCanvas

/-- A table on the canvas. -/
structure Node where
  name : String
  position : Position
  table : Table
  deriving DecidableEq

/-- The tables on the canvas and the foreign keys between them. -/
structure Picture where
  nodes : List Node
  edges : List ForeignKey
  deriving DecidableEq

namespace Picture

/-- The picture of nothing. -/
def empty : Picture :=
  ⟨[], []⟩

/-- The places of the tables. -/
def positions (p : Picture) : Positions :=
  Registry.ofList (p.nodes.map fun node => (node.name, node.position))

/-- The picture of tables of a schema at their places. -/
def draw (schema : Schema) (positions : Positions) : Picture where
  nodes := positions.items.filterMap fun item =>
    (schema.tables.get? item.1).map fun table => ⟨item.1, item.2, table⟩
  edges := schema.foreignKeys.filter fun key =>
    positions.contains key.sourceTable && positions.contains key.targetTable

end Picture

end SchemaCanvas
