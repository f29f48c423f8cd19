import SchemaCanvas.Schema.Basic

/-!
# Statements about tables

The statements of a script that declare something about tables, each with the line on which it
starts. They are read one by one; how they fit together is decided when a schema is built of them.
-/

namespace SchemaCanvas.Sql

/-- A foreign key as it is written; without target columns the target's primary key is meant. -/
structure ForeignKeyClause where
  table : String
  columns : List String
  targetTable : String
  targetColumns : List String
  deriving DecidableEq, Repr

/-- A declaration about tables. -/
inductive Statement
  | createTable (table : Table) (line : Nat)
  | addPrimaryKey (table : String) (columns : List String) (line : Nat)
  | addForeignKey (clause : ForeignKeyClause) (line : Nat)
  deriving DecidableEq, Repr

end SchemaCanvas.Sql
