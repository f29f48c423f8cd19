import SchemaCanvas.Schema.Resolution
import SchemaCanvas.Sql.Statement.Parser

/-!
# Building a schema of its declarations

The declarations of a script are put together in three passes, so that their order matters little:
tables first, then primary keys, then foreign keys once every table and primary key is known. A
declaration that does not fit is dropped with a warning on its line.
-/

namespace SchemaCanvas

open Sql

/-- The warning that a table is declared once more. -/
def redeclared (table : String) (line : Nat) : Warning :=
  ⟨.syntactic, "Table \"" ++ table ++ "\" is declared more than once; using the last declaration",
    some line⟩

/-- The warning that a primary key is on a table that does not exist. -/
def primaryKeyTableMissing (table : String) (line : Nat) : Warning :=
  ⟨.resolution, "Primary key on unknown table \"" ++ table ++ "\"", some line⟩

/-- The warning that a column of a primary key does not exist. -/
def primaryKeyColumnMissing (column table : String) (line : Nat) : Warning :=
  ⟨.resolution, "Primary key column \"" ++ column ++ "\" not found in \"" ++ table ++ "\"",
    some line⟩

namespace Schema

/-- Puts the declared tables into a registry; the last declaration of a name counts. -/
def declareTables (tables : Registry Table) : List Statement → Registry Table × List Warning
  | [] => (tables, [])
  | .createTable table line :: statements =>
    let more := declareTables (tables.insert table.qualifiedName table) statements
    if tables.contains table.qualifiedName then
      (more.1, redeclared table.qualifiedName line :: more.2)
    else more
  | _ :: statements => declareTables tables statements

/-- The table with those of the columns that it has as its primary key. -/
def withPrimaryKey (table : Table) (columns : List String) : Table :=
  { table with primaryKey := distinct (columns.filter table.hasColumn) }

/-- Gives the declared primary keys to the tables. -/
def declarePrimaryKeys (tables : Registry Table) : List Statement → Registry Table × List Warning
  | [] => (tables, [])
  | .addPrimaryKey name columns line :: statements =>
    match tables.get? name with
    | none =>
      let more := declarePrimaryKeys tables statements
      (more.1, primaryKeyTableMissing name line :: more.2)
    | some table =>
      let more := declarePrimaryKeys (tables.insert name (withPrimaryKey table columns)) statements
      let unknown := columns.filter fun column => !table.hasColumn column
      (more.1, unknown.map (primaryKeyColumnMissing · name line) ++ more.2)
  | _ :: statements => declarePrimaryKeys tables statements

/-- The references that the declared foreign keys stand for among the tables. -/
def declareForeignKeys (tables : Registry Table) : List Statement → List ForeignKey × List Warning
  | [] => ([], [])
  | .addForeignKey clause line :: statements =>
    let more := declareForeignKeys tables statements
    match clause.resolve tables with
    | .ok references => (references ++ more.1, more.2)
    | .error cause => (more.1, ⟨.resolution, cause.message, some line⟩ :: more.2)
  | _ :: statements => declareForeignKeys tables statements

/-- The schema of a list of declarations, with the warnings about those that do not fit. -/
def ofStatements (statements : List Statement) : Schema × List Warning :=
  let declared := declareTables ∅ statements
  let keyed := declarePrimaryKeys declared.1 statements
  let referring := declareForeignKeys keyed.1 statements
  (⟨keyed.1, referring.1⟩, declared.2 ++ keyed.2 ++ referring.2)

/-- The schema of a list of tokens, with all warnings. -/
def ofTokens (tokens : List Token) : Schema × List Warning :=
  let read := Statement.collect tokens
  let built := ofStatements read.1
  (built.1, read.2 ++ built.2)

/-- The schema of a script, with all warnings. Every text has a schema. -/
def ofText (text : String) : Schema × List Warning :=
  ofTokens (Script.ofText text).tokens

end Schema

end SchemaCanvas
