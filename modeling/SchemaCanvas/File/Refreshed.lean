import SchemaCanvas.File.Loaded
import SchemaCanvas.Layout.Writer
import SchemaCanvas.Picture.Refresh

/-!
# Reading the schema of a file again, and writing its layout

A refresh takes the schema from a newer text and keeps the diagrams that are at hand. A text is
prepared for saving by writing the places on the canvas into their diagram, placing everything that
still has no place, and putting all diagrams into the block of the text.
-/

namespace SchemaCanvas

variable {σ : Type}

/-- Why a file cannot be drawn. -/
inductive FileError
  | structural (cause : StructuralError)
  | layout (cause : LayoutError)
  deriving DecidableEq, Repr

/-- The wording of a cause. -/
def FileError.message : FileError → String
  | .structural cause => cause.message
  | .layout cause => cause.message

/-- A newer schema, the picture of a diagram for it, and the diagrams with its places. -/
structure Refreshed where
  schema : Schema
  picture : Picture
  diagrams : DiagramSet
  warnings : List Warning

/-- Reads the schema of a newer text and brings a diagram in step with it. -/
def Refreshed.ofText (name text : String) (diagrams : DiagramSet) (g : Generator σ) :
    EStateM FileError σ Refreshed := fun s =>
  match Schema.ofText? text with
  | .error cause => .error (.structural cause) s
  | .ok (schema, warnings) =>
    match diagrams.refresh name schema g s with
    | .ok (picture, diagrams) t => .ok ⟨schema, picture, diagrams, Warning.byLine warnings⟩ t
    | .error cause t => .error (.layout cause) t

/-- The diagrams with the positions written into one of them and a place for every table. -/
def DiagramSet.prepare (diagrams : DiagramSet) (name : String) (positions : Positions)
    (g : Generator σ) : Placing σ DiagramSet := do
  let committed ← diagrams.commit name positions
  committed.fill g

/-- The text with the diagrams in its block. -/
def Placing.save (text : String) (diagrams : DiagramSet) : Placing σ String := fun s =>
  match Block.save text diagrams with
  | .ok saved => .ok saved s
  | .error cause => .error cause s

/-- The text with the prepared diagrams in its block. -/
def DiagramSet.prepareSave (text : String) (diagrams : DiagramSet) (name : String)
    (positions : Positions) (g : Generator σ) : Placing σ String := do
  let prepared ← diagrams.prepare name positions g
  Placing.save text prepared

end SchemaCanvas
