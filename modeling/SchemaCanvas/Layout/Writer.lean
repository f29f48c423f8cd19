import SchemaCanvas.Layout.Block
import SchemaCanvas.Layout.Diagram
import SchemaCanvas.Layout.Error
import SchemaCanvas.Layout.Name

/-!
# Writing diagrams as a layout block

A block is written with a header line for each diagram and a line for each of its entries, and a
blank line between diagrams. Coordinates are rounded to whole pixels. In strict writing an entry
whose place is not known is an error; otherwise it is written without a place.
-/

namespace SchemaCanvas

/-- The line of a table at a place, rounded to whole pixels. -/
def Position.line (name : String) (p : Position) : Except LayoutError String := do
  let x ← LayoutError.ofNumber p.x.round
  let y ← LayoutError.ofNumber p.y.round
  return Name.quoteQualified name ++ " " ++ toString x ++ " " ++ toString y

/-- The line of an entry. -/
def Entry.line (strict : Bool) (e : Entry) : Except LayoutError String :=
  match e with
  | .wildcard schema => .ok (Name.quote schema ++ ".*")
  | .table name (some x) (some y) => Position.line name ⟨x, y⟩
  | .table name _ _ => if strict then .error (.noPosition name) else .ok (Name.quoteQualified name)

/-- The lines of entries, in order. -/
def Entry.lines (strict : Bool) : List Entry → Except LayoutError (List String)
  | [] => .ok []
  | entry :: entries => do
    let line ← entry.line strict
    let lines ← Entry.lines strict entries
    return line :: lines

/-- The lines of a diagram: its header and its entries. -/
def Diagram.lines (strict : Bool) (d : Diagram) : Except LayoutError (List String) := do
  let entries ← Entry.lines strict d.entries
  return ("[" ++ d.name ++ "]") :: entries

namespace Block

/-- The sections of diagrams, in order. -/
def sections (strict : Bool) : List Diagram → Except LayoutError (List String)
  | [] => .ok []
  | diagram :: diagrams => do
    let lines ← diagram.lines strict
    let more ← sections strict diagrams
    return "\n".intercalate lines :: more

/-- The block that holds the diagrams. -/
def write (strict : Bool) (diagrams : DiagramSet) : Except LayoutError String := do
  let sections ← sections strict diagrams.values
  return "\n".intercalate ["/* @erd-pets", "\n\n".intercalate sections, "*/"]

/-- The text with the block in the place of its first one, or before everything else. -/
def spliceText (text block : String) : String :=
  String.ofList (splice text.toList block.toList)

/-- The text with the diagrams written into its block; every table must have its place. -/
def save (text : String) (diagrams : DiagramSet) : Except LayoutError String := do
  let block ← write true diagrams
  return spliceText text block

end Block

end SchemaCanvas
