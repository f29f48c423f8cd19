import SchemaCanvas.Number.Basic

/-!
# What can go wrong with a layout

The causes for which no layout can be computed or written, and their wording.
-/

namespace SchemaCanvas

/-- Why a layout cannot be computed or written. -/
inductive LayoutError
  /-- A coordinate cannot be computed or rounded. -/
  | number (cause : NumberError)
  /-- An option that a computation needs has no value. -/
  | missingOption
  /-- The generator left out tables that it was asked to place. -/
  | unplaced (tables : List String)
  | unknownDiagram (name : String)
  /-- An entry that must be written with its place has none. -/
  | noPosition (table : String)
  deriving DecidableEq, Repr

/-- The wording of a cause. -/
def LayoutError.message : LayoutError → String
  | .number cause => cause.message
  | .missingOption => "an option has no value"
  | .unplaced tables =>
    "Position generator returned no position for: " ++ ", ".intercalate tables
  | .unknownDiagram name => "Unknown diagram: " ++ name
  | .noPosition table => "Entry \"" ++ table ++ "\" has no position"

/-- Carries the causes of number computations over. -/
def LayoutError.ofNumber {α : Type} : Except NumberError α → Except LayoutError α
  | .ok a => .ok a
  | .error cause => .error (.number cause)

end SchemaCanvas
