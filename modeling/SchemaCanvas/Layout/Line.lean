import SchemaCanvas.Layout.Diagram
import SchemaCanvas.Layout.Name
import SchemaCanvas.Text.Digit

/-!
# Lines of a layout block

A line opens a diagram, `[name]`, or is an entry: a wildcard `schema.*`, or a table `schema.table`
which two coordinates may follow. Every other line is ignored, so that a newer form of a line does
not disturb the reading of the others.
-/

namespace SchemaCanvas

/-- Why an entry is not taken. -/
inductive EntryError
  /-- Coordinates follow a wildcard; the schema is given as it is written. -/
  | placedWildcard (schema : String)
  /-- What follows a table is not two coordinates. -/
  | badCoordinates (table : String)
  deriving DecidableEq, Repr

/-- The wording of a cause. -/
def EntryError.message : EntryError → String
  | .placedWildcard schema => "Wildcard \"" ++ schema ++ ".*\" cannot have coordinates"
  | .badCoordinates table => "Invalid coordinates for \"" ++ table ++ "\": expected \"x y\""

/-- What a line says. -/
inductive Line
  | ignored
  | header (name : String)
  | entry (entry : Except EntryError Entry)

namespace Line

/-- Takes an unsigned number off the front of a text: digits, and digits after a point if a point
with digits follows. -/
def magnitude? (negative : Bool) (cs : List Char) : Option (Binary64 × List Char) :=
  let digits := cs.takeWhile Text.isDigit
  let rest := cs.dropWhile Text.isDigit
  if digits = [] then none
  else
    let whole := (Decimal.value negative (Text.digitsValue digits) 0, rest)
    match rest with
    | '.' :: more =>
      let places := more.takeWhile Text.isDigit
      if places = [] then some whole
      else
        some (Decimal.value negative (Text.digitsValue (digits ++ places)) (-(places.length : Int)),
          more.dropWhile Text.isDigit)
    | _ => some whole

/-- Takes a number off the front of a text. -/
def number? : List Char → Option (Binary64 × List Char)
  | '-' :: cs => magnitude? true cs
  | cs => magnitude? false cs

/-- The two coordinates that a text consists of, with blanks between them. -/
def coordinates? (cs : List Char) : Option (Binary64 × Binary64) := do
  let (x, rest) ← number? cs
  if rest.head?.all (!Text.isBlank ·) then none
  let (y, rest) ← number? (rest.dropWhile Text.isBlank)
  if rest = [] then some (x, y) else none

/-- The name between the brackets of a line that opens a diagram. -/
def header? : List Char → Option (List Char)
  | '[' :: cs =>
    let name := cs.takeWhile (· ≠ ']')
    if name ≠ [] ∧ cs.dropWhile (· ≠ ']') = [']'] then some (Text.strip name) else none
  | _ => none

/-- What follows the point of an entry: the star of a wildcard or the written name of a table, and
what follows that. -/
def target? : List Char → Option (Option (List Char) × List Char)
  | '*' :: cs => some (none, cs)
  | cs => (Name.scan cs).map fun cut => (some cut.1, cut.2)

/-- What follows the names of an entry, without blanks around it; anything that follows must be set
off by a blank. -/
def trailing? (cs : List Char) : Option (List Char) :=
  if cs = [] then some []
  else if cs.head?.any Text.isBlank then some (Text.strip cs)
  else none

/-- The parts of an entry: the written name of the schema, the written name of the table unless it
is a wildcard, and what follows. -/
def parts? (cs : List Char) : Option (List Char × Option (List Char) × List Char) := do
  let (schema, rest) ← Name.scan cs
  match rest with
  | '.' :: rest =>
    let (target, rest) ← target? rest
    let trailing ← trailing? rest
    some (schema, target, trailing)
  | _ => none

/-- The entry that consists of the parts. -/
def entryOfParts (schema : List Char) (target : Option (List Char)) (trailing : List Char) :
    Except EntryError Entry :=
  let schemaName := Name.read schema
  match target with
  | none =>
    if trailing = [] then .ok (.wildcard (String.ofList schemaName))
    else .error (.placedWildcard (String.ofList schema))
  | some table =>
    let name := String.ofList (schemaName ++ '.' :: Name.read table)
    if trailing = [] then .ok (.table name none none)
    else
      match coordinates? trailing with
      | some (x, y) => .ok (.table name (some (.real x)) (some (.real y)))
      | none => .error (.badCoordinates name)

/-- What a line says that has no blanks at its ends. -/
def read (cs : List Char) : Line :=
  match header? cs with
  | some name => .header (String.ofList name)
  | none =>
    match parts? cs with
    | some (schema, target, trailing) => .entry (entryOfParts schema target trailing)
    | none => .ignored

end Line

end SchemaCanvas
