import SchemaCanvas.Distinct
import SchemaCanvas.Registry
import SchemaCanvas.Text.Lines

/-!
# Schemas

A schema is a registry of tables under their qualified names, `schema.table`, with the foreign keys
between them. Tables and columns stand in the order of their declaration.
-/

namespace SchemaCanvas

/-- A column of a table. -/
structure Column where
  name : String
  /-- The type as it is written, such as `varchar(255)`. -/
  type : String
  nullable : Bool
  hasDefault : Bool
  deriving DecidableEq, Repr

/-- A reference from one column to another. -/
structure ForeignKey where
  sourceTable : String
  sourceColumn : String
  targetTable : String
  targetColumn : String
  deriving DecidableEq, Repr

/-- The name of a table together with its schema's. -/
def qualify (schema table : String) : String :=
  schema ++ "." ++ table

/-- The schema's part of a qualified name: what stands before the first point. -/
def schemaOf (qualifiedName : String) : String :=
  String.ofList (Text.cutAt '.' qualifiedName.toList).1

/-- A table. -/
structure Table where
  schema : String
  name : String
  columns : List Column
  primaryKey : List String
  deriving DecidableEq, Repr

namespace Table

/-- The table's name together with its schema's. -/
def qualifiedName (t : Table) : String :=
  qualify t.schema t.name

/-- The first column called `name`. -/
def column? (t : Table) (name : String) : Option Column :=
  t.columns.find? fun column => column.name = name

/-- Whether the table has a column called `name`. -/
def hasColumn (t : Table) (name : String) : Bool :=
  t.columns.any fun column => column.name = name

end Table

/-- Tables under their qualified names, and the foreign keys between them. -/
structure Schema where
  tables : Registry Table
  foreignKeys : List ForeignKey
  deriving DecidableEq

namespace Schema

/-- The schema without tables. -/
def empty : Schema :=
  ⟨∅, []⟩

/-- The names of the schemas that hold tables, in the order in which they first come. -/
def schemaNames (s : Schema) : List String :=
  distinct (s.tables.values.map Table.schema)

/-- The qualified names of the tables of one schema, in order. -/
def tablesIn (s : Schema) (schemaName : String) : List String :=
  (s.tables.values.filter fun table => table.schema = schemaName).map Table.qualifiedName

/-- Whether there is a table under the qualified name. -/
def contains (s : Schema) (qualifiedName : String) : Bool :=
  s.tables.contains qualifiedName

end Schema

end SchemaCanvas
