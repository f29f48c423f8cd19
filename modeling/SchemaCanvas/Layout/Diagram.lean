import SchemaCanvas.Number.Basic
import SchemaCanvas.Registry

/-!
# Diagrams

A diagram is a named view of a schema: a list of entries, in the order in which they are written. An
entry brings in all tables of one schema, or one table with its place on the canvas. The place may
not be known yet.
-/

namespace SchemaCanvas

/-- The place of a table on the canvas, in pixels. -/
structure Position where
  x : Number
  y : Number
  deriving DecidableEq

/-- The places of tables, under their qualified names. -/
abbrev Positions := Registry Position

/-- An entry of a diagram. -/
inductive Entry
  /-- All tables of a schema. -/
  | wildcard (schema : String)
  /-- One table, under its qualified name, with as much of its place as is known. -/
  | table (name : String) (x y : Option Number)
  deriving DecidableEq

namespace Entry

/-- The place that an entry gives to its table, when both coordinates are known. -/
def position? : Entry → Option Position
  | .table _ (some x) (some y) => some ⟨x, y⟩
  | _ => none

/-- The table that an entry names. -/
def tableName? : Entry → Option String
  | .table name _ _ => some name
  | .wildcard _ => none

/-- The entry that puts a table at a place. -/
def placed (name : String) (p : Position) : Entry :=
  .table name (some p.x) (some p.y)

end Entry

/-- A named view of a schema. -/
structure Diagram where
  name : String
  entries : List Entry
  deriving DecidableEq

/-- Diagrams under their names, in the order of their declaration. -/
abbrev DiagramSet := Registry Diagram

/-- The diagrams in order, each under its own name. -/
def DiagramSet.ofDiagrams (diagrams : List Diagram) : DiagramSet :=
  Registry.ofList (diagrams.map fun diagram => (diagram.name, diagram))

/-- Whether two optional numbers have the same value. -/
def sameNumber? : Option Number → Option Number → Bool
  | some a, some b => a.same b
  | none, none => true
  | _, _ => false

/-- Whether two entries say the same, with coordinates of the same values. -/
def Entry.same : Entry → Entry → Bool
  | .wildcard a, .wildcard b => a = b
  | .table a x y, .table b u v => a = b && sameNumber? x u && sameNumber? y v
  | _, _ => false

/-- Whether two diagrams say the same. -/
def Diagram.same (a b : Diagram) : Bool :=
  a.name = b.name && a.entries.isEqv b.entries Entry.same

/-- Whether two sets of diagrams say the same, in the same order. -/
def DiagramSet.same (a b : DiagramSet) : Bool :=
  a.items.isEqv b.items fun i j => i.1 = j.1 && i.2.same j.2

end SchemaCanvas
