import SchemaCanvas.Sql.Statement

/-!
# Resolving foreign keys

A foreign key clause stands for one reference per column. It is resolved against the tables of the
whole script, all or nothing: `ForeignKeyClause.resolve` gives one reference for every column of the
clause, or the cause why there is none.
-/

namespace SchemaCanvas

/-- Why a foreign key clause refers to nothing. -/
inductive ResolutionError
  | unknownSource (table : String)
  | unknownTarget (table target : String)
  | noPrimaryKey (table target : String)
  | unequalColumns (table : String) (own : Nat) (target : String) (referenced : Nat)
  | unknownColumn (column table : String)
  deriving DecidableEq, Repr

/-- The wording of a cause. -/
def ResolutionError.message : ResolutionError → String
  | .unknownSource table => "Foreign key on unknown table \"" ++ table ++ "\""
  | .unknownTarget table target =>
    "Foreign key on \"" ++ table ++ "\" references unknown table \"" ++ target ++ "\""
  | .noPrimaryKey table target =>
    "Foreign key on \"" ++ table ++ "\" omits the referenced column but \"" ++ target ++
      "\" has no primary key"
  | .unequalColumns table own target referenced =>
    "Foreign key on \"" ++ table ++ "\" has " ++ toString own ++ " column(s) but references " ++
      toString referenced ++ " in \"" ++ target ++ "\""
  | .unknownColumn column table => "Column \"" ++ column ++ "\" not found in \"" ++ table ++ "\""

/-- The first of the names that is no column of the table. -/
def Table.missingColumn? (t : Table) (names : List String) : Option String :=
  names.find? fun name => !t.hasColumn name

namespace Sql.ForeignKeyClause

/-- The columns that a clause refers to in its target. -/
def referenced (c : ForeignKeyClause) (target : Table) : List String :=
  if c.targetColumns = [] then target.primaryKey else c.targetColumns

/-- The references that a clause stands for, between its source and its target. -/
def references (c : ForeignKeyClause) (source target : Table) : List ForeignKey :=
  List.zipWith
    (fun own other => ⟨source.qualifiedName, own, target.qualifiedName, other⟩)
    c.columns (c.referenced target)

/-- The references that a clause stands for among the tables. -/
def resolve (c : ForeignKeyClause) (tables : Registry Table) :
    Except ResolutionError (List ForeignKey) :=
  match tables.get? c.table with
  | none => .error (.unknownSource c.table)
  | some source =>
    match tables.get? c.targetTable with
    | none => .error (.unknownTarget c.table c.targetTable)
    | some target =>
      let others := c.referenced target
      if others = [] then .error (.noPrimaryKey c.table c.targetTable)
      else if others.length ≠ c.columns.length then
        .error (.unequalColumns c.table c.columns.length c.targetTable others.length)
      else
        match source.missingColumn? c.columns with
        | some column => .error (.unknownColumn column source.qualifiedName)
        | none =>
          match target.missingColumn? others with
          | some column => .error (.unknownColumn column target.qualifiedName)
          | none => .ok (c.references source target)

end Sql.ForeignKeyClause

end SchemaCanvas
