import SchemaCanvas.Picture.Basic

/-!
# The tables that a diagram shows

A diagram shows the tables of a schema that its entries mention, each once and in the order of their
first mention. The places that are known come from the entries of single tables; the last entry of a
table that has a place counts.
-/

namespace SchemaCanvas

/-- Tables to show, each with its place if that is known. -/
abbrev Selection := Registry (Option Position)

/-- The names that an entry mentions. -/
def Entry.mentions (schema : Schema) : Entry → List String
  | .wildcard name => schema.tablesIn name
  | .table name _ _ => [name]

namespace Selection

/-- The selection with a table of the schema added, unless it is there. -/
def add (schema : Schema) (s : Selection) (name : String) : Selection :=
  if schema.contains name then s.insertNew name none else s

/-- The selection with the tables added that an entry mentions. -/
def mention (schema : Schema) (s : Selection) (e : Entry) : Selection :=
  (e.mentions schema).foldl (add schema) s

/-- The selection with the place that an entry gives to one of its tables. -/
def overlay (s : Selection) (e : Entry) : Selection :=
  match e with
  | .table name (some x) (some y) =>
    if s.contains name then s.insert name (some ⟨x, y⟩) else s
  | _ => s

/-- The tables whose place is known. -/
def placed (s : Selection) : Positions :=
  s.filterMap fun _ position => position

/-- The names of the tables whose place is not known. -/
def unplaced (s : Selection) : List String :=
  (s.items.filter fun item => item.2.isNone).map Prod.fst

/-- The places of all tables, those not known from elsewhere. -/
def complete (s : Selection) (more : Positions) : Positions :=
  s.filterMap fun name position => position.or (more.get? name)

end Selection

/-- The tables of the schema that a diagram shows. -/
def Diagram.select (d : Diagram) (schema : Schema) : Selection :=
  d.entries.foldl Selection.overlay (d.entries.foldl (Selection.mention schema) ∅)

end SchemaCanvas
