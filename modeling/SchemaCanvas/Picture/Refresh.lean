import SchemaCanvas.Picture.Resolution

/-!
# Keeping diagrams in step with a schema

Places on the canvas are written into a diagram as entries of single tables (`Diagram.materialize`):
an entry that is there takes the new place, and a table that came in by a wildcard gets an entry
right after it. A refresh drops the entries of tables that are gone, places the tables that are new,
and writes all places into the diagram.
-/

namespace SchemaCanvas

variable {σ : Type}

/-- The diagram without the entries of tables that the schema does not have; wildcards stay. -/
def Diagram.prune (d : Diagram) (schema : Schema) : Diagram :=
  { d with entries := d.entries.filter fun entry => entry.tableName?.all schema.contains }

/-- The entry with its table's place among the positions, if there is one. -/
def Entry.moveTo (positions : Positions) (e : Entry) : Entry :=
  match e with
  | .wildcard schema => .wildcard schema
  | .table name x y =>
    match positions.get? name with
    | some position => .placed name position
    | none => .table name x y

/-- The entries with the positions written into them. The pending items have no entry yet: they are
put after the first wildcard of their schema, or else at the end. -/
def Entry.materialize (positions : Positions) :
    (pending : List (String × Position)) → List Entry → List Entry
  | pending, [] => pending.map fun item => .placed item.1 item.2
  | pending, .wildcard schema :: entries =>
    let (matched, others) := pending.partition fun item => decide (schemaOf item.1 = schema)
    .wildcard schema :: matched.map (fun item => .placed item.1 item.2) ++
      Entry.materialize positions others entries
  | pending, entry :: entries =>
    entry.moveTo positions :: Entry.materialize positions pending entries

/-- The names of the tables that have an entry of their own. -/
def Diagram.tableNames (d : Diagram) : List String :=
  d.entries.filterMap Entry.tableName?

/-- The diagram with the positions written into it. -/
def Diagram.materialize (d : Diagram) (positions : Positions) : Diagram :=
  let pending := positions.items.filter fun item => decide (item.1 ∉ d.tableNames)
  { d with entries := Entry.materialize positions pending d.entries }

/-- The diagrams with the positions written into one of them. -/
def DiagramSet.commit (diagrams : DiagramSet) (name : String) (positions : Positions) :
    Placing σ DiagramSet := do
  let diagram ← diagrams.find name
  return diagrams.insert name (diagram.materialize positions)

/-- The picture of a diagram for a new schema, and the diagrams with its places written into it. -/
def DiagramSet.refresh (diagrams : DiagramSet) (name : String) (schema : Schema)
    (g : Generator σ) : Placing σ (Picture × DiagramSet) := do
  let diagram ← diagrams.find name
  let pruned := diagram.prune schema
  let positions ← (pruned.select schema).place g
  return (Picture.draw schema positions, diagrams.insert name (pruned.materialize positions))

/-- The places that the entries of a diagram give to tables; the last one of a table counts. -/
def Diagram.stored (d : Diagram) : Positions :=
  Registry.ofList (d.entries.filterMap fun entry =>
    match entry with
    | .table name (some x) (some y) => some (name, ⟨x, y⟩)
    | _ => none)

/-- The entry with a place from the positions if it is of a table and has none. -/
def Entry.fill (positions : Positions) (e : Entry) : Entry :=
  if e.position?.isSome then e else e.moveTo positions

/-- The diagram with a place for every table that has an entry. The generator is called once for all
tables without a place, and not at all when there are none. -/
def Diagram.fill (d : Diagram) (g : Generator σ) : Placing σ Diagram :=
  let missing := distinct (d.tableNames.filter fun name => !d.stored.contains name)
  if missing = [] then pure d
  else do
    let generated ← g.placeAll d.stored missing
    let positions := generated.items.foldl (fun p item => p.insert item.1 item.2) d.stored
    return { d with entries := d.entries.map (Entry.fill positions) }

/-- The diagrams of a list, each filled in, in order. -/
def DiagramSet.fillItems (g : Generator σ) :
    List (String × Diagram) → Placing σ (List (String × Diagram))
  | [] => pure []
  | item :: items => do
    let diagram ← item.2.fill g
    let more ← DiagramSet.fillItems g items
    return (item.1, diagram) :: more

/-- The diagrams with a place for every table that has an entry. -/
def DiagramSet.fill (diagrams : DiagramSet) (g : Generator σ) : Placing σ DiagramSet := do
  let items ← DiagramSet.fillItems g diagrams.items
  return Registry.ofList items

end SchemaCanvas
