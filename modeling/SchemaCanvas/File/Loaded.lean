import SchemaCanvas.Layout.Reader
import SchemaCanvas.Schema.Build

/-!
# Reading a schema file

A schema file is an SQL script with its layout in a comment. Reading it gives the schema, the
diagrams, and all warnings in the order of their lines. A file without diagrams gets one that shows
every schema, and a file without tables cannot be read.
-/

namespace SchemaCanvas

/-- Everything that is known about a file after reading it. -/
structure Loaded where
  schema : Schema
  diagrams : DiagramSet
  warnings : List Warning
  /-- Whether the file has a layout block. -/
  hasBlock : Bool

/-- The warnings in the order of their lines; those without a line come first. -/
def Warning.byLine (ws : List Warning) : List Warning :=
  ws.mergeSort fun a b => decide (a.line.getD 0 ≤ b.line.getD 0)

/-- The schema of a script that has at least one table. -/
def Schema.ofText? (text : String) : Except StructuralError (Schema × List Warning) :=
  let (schema, warnings) := Schema.ofText text
  if schema.tables.items = [] then .error (.noTables warnings.length) else .ok (schema, warnings)

/-- The name of the diagram that a file gets which has none. -/
def defaultDiagramName : String :=
  "main"

/-- The diagram of a file that has none: it shows every schema. -/
def Schema.defaultDiagram (s : Schema) : Diagram :=
  ⟨defaultDiagramName, s.schemaNames.map .wildcard⟩

/-- The diagrams of a file that has none. -/
def Schema.defaultDiagrams (s : Schema) : DiagramSet :=
  DiagramSet.ofDiagrams [s.defaultDiagram]

namespace Loaded

/-- What a text holds. -/
def ofText (text : String) : Except StructuralError Loaded := do
  let (schema, warnings) ← Schema.ofText? text
  let (block, more) ← Block.readText text
  let diagrams := match block with
    | some diagrams => if diagrams.items = [] then schema.defaultDiagrams else diagrams
    | none => schema.defaultDiagrams
  return ⟨schema, diagrams, Warning.byLine (warnings ++ more), block.isSome⟩

/-- The names of the diagrams, in order. -/
def diagramNames (l : Loaded) : List String :=
  l.diagrams.keys

end Loaded

end SchemaCanvas
