import SchemaCanvas.Number.Trigonometry
import SchemaCanvas.Placement.Generator
import SchemaCanvas.Schema.Basic

/-!
# The circular layout

New tables go on circles, one for each schema, from left to right in the order of the schemas' names
and to the right of everything that has a place. On its circle a schema has its tables in the order
of their names, clockwise from the top.
-/

namespace SchemaCanvas.Circular

/-- The least radius of a circle. -/
def leastRadius : Nat :=
  200

/-- The radius that each table of a circle needs. -/
def radiusPerTable : Nat :=
  50

/-- The rough width of a table, which keeps new circles clear of tables that have a place. -/
def tableWidth : Int :=
  250

/-- The space around a circle. -/
def margin : Number :=
  .whole 50

/-- What can be chosen of a circular layout: the radius of all circles, if it is not to depend on
their tables, and the space between them. -/
structure Options where
  radius : Option Number
  spacing : Option Number

/-- The options of a layout for which nothing is chosen. -/
def Options.standard : Options :=
  ⟨none, some (.whole 600)⟩

/-- The names in order. -/
def sorted (names : List String) : List String :=
  names.mergeSort fun a b => decide (a ≤ b)

/-- The rounded place in the direction `angle` from a centre. -/
def pointAt (centreX centreY radius : Number) (angle : Binary64) :
    Except NumberError Position := do
  let x ← (← centreX.add (← radius.scale angle.cos)).round
  let y ← (← centreY.add (← radius.scale angle.sin)).round
  return ⟨.whole x, .whole y⟩

/-- The angle of the table with the number `i` among `count`. -/
def angleOf (count i : Nat) : Binary64 :=
  let step := (Binary64.pi.add Binary64.pi).divNat count
  (Binary64.pi.neg.divNat 2).add ((Binary64.ofInt i).mul step)

/-- The places of names on a circle, the first with the number `i` among `count`, put into
`placed`. -/
def onCircle (centreX centreY radius : Number) (count : Nat) (placed : Positions) :
    (i : Nat) → List String → Except NumberError Positions
  | _, [] => .ok placed
  | i, name :: names => do
    let place ← pointAt centreX centreY radius (angleOf count i)
    onCircle centreX centreY radius count (placed.insert name place) (i + 1) names

/-- The radius of the circle of so many tables. -/
def Options.radiusFor (o : Options) (count : Nat) : Number :=
  let standard : Number := .whole (max leastRadius (count * radiusPerTable) : Nat)
  match o.radius with
  | some radius => if radius.isZero then standard else radius
  | none => standard

/-- The circles of the schemas, one after another from `left` on, put into `placed`. -/
def circles (o : Options) (top : Number) (names : List String) (left : Number)
    (placed : Positions) : List String → Except LayoutError Positions
  | [] => .ok placed
  | schema :: schemas => do
    let members := names.filter fun name => schemaOf name = schema
    let radius := o.radiusFor members.length
    let centreX ← LayoutError.ofNumber do (← left.add radius).add margin
    let centreY ← LayoutError.ofNumber do (← top.add radius).add margin
    let circle ← LayoutError.ofNumber
      (onCircle centreX centreY radius members.length ∅ 0 (sorted members))
    let right ← LayoutError.ofNumber (centreX.add radius)
    let spacing ← o.spacing.elim (.error .missingOption) .ok
    let left ← LayoutError.ofNumber (right.add spacing)
    circles o top names left (circle.items.foldl (fun p item => p.insert item.1 item.2) placed)
      schemas

/-- The right edge of the tables that have a place, or zero. -/
def rightEdge (existing : Positions) : Except LayoutError Number :=
  let furthest : Number := match existing.values.map Position.x with
    | [] => .whole (-tableWidth)
    | x :: xs => Number.greatest x xs
  LayoutError.ofNumber (furthest.add (.whole tableWidth))

/-- The upper edge of the tables that have a place, or zero. -/
def topEdge (existing : Positions) : Number :=
  match existing.values.map Position.y with
  | [] => .whole 0
  | y :: ys => Number.least y ys

/-- The places of new tables on circles. -/
def place (o : Options) (existing : Positions) (names : List String) :
    Except LayoutError Positions :=
  match names with
  | [] => .ok ∅
  | _ => do
    let left ← rightEdge existing
    circles o (topEdge existing) names left ∅ (sorted (distinct (names.map schemaOf)))

end SchemaCanvas.Circular
