import SchemaCanvas.Proofs.Schema.Keys

/-!
# Schemas are closed

Whatever a script is, the schema that is read from it is closed (`Schema.closed_ofText`): every
table stands under its own qualified name, a primary key names columns of its table, each once, and
a foreign key leads from a column of a table to a column of a table, since a clause that does not is
never resolved (`ForeignKeyClause.resolve_eq_ok_iff`). No schema has a point in its name, so a
qualified name tells the schema and the table that it is put together from (`qualify_inj`).
-/

namespace SchemaCanvas

open Sql

/-- Whether the tables stand under their names and all keys are about columns of tables. -/
structure Schema.Closed (s : Schema) : Prop where
  keyed : Keyed s.tables
  plain : s.tables.Forall fun _ table => '.' ∉ table.schema.toList
  /-- A primary key has no repeated name, and names columns of its own table. -/
  primaryKey : s.tables.Forall fun _ table =>
    table.primaryKey.Nodup ∧ ∀ column ∈ table.primaryKey, table.hasColumn column = true
  /-- Both ends of a foreign key are columns of tables. -/
  foreignKey : ∀ key ∈ s.foreignKeys, ∃ source target,
    s.tables.get? key.sourceTable = some source ∧ source.hasColumn key.sourceColumn = true ∧
      s.tables.get? key.targetTable = some target ∧ target.hasColumn key.targetColumn = true

/-! ## Primary keys -/

/-- A primary key is made of the columns that its table has. -/
theorem Schema.primaryKey_withPrimaryKey (table : Table) (columns : List String) :
    (withPrimaryKey table columns).primaryKey.Nodup ∧
      ∀ column ∈ (withPrimaryKey table columns).primaryKey,
        (withPrimaryKey table columns).hasColumn column = true := by
  refine ⟨nodup_distinct _, fun column hcolumn => ?_⟩
  have hknown : column ∈ columns.filter table.hasColumn := mem_distinct.1 hcolumn
  exact (List.mem_filter.1 hknown).2

/-! ## Foreign keys -/

/-- No column is missing exactly if the table has all of them. -/
theorem Table.missingColumn?_eq_none {table : Table} {names : List String} :
    table.missingColumn? names = none ↔ ∀ name ∈ names, table.hasColumn name = true := by
  simp [Table.missingColumn?]

namespace Sql.ForeignKeyClause

variable {clause : ForeignKeyClause} {tables : Registry Table} {references : List ForeignKey}

/-- The clause can be resolved between two tables of the script. The columns that it refers to are
those that are written, or the primary key of the target when none are. -/
structure Resolves (clause : ForeignKeyClause) (tables : Registry Table) (source target : Table) :
    Prop where
  get?_source : tables.get? clause.table = some source
  get?_target : tables.get? clause.targetTable = some target
  referenced_ne : clause.referenced target ≠ []
  length_eq : (clause.referenced target).length = clause.columns.length
  own : ∀ column ∈ clause.columns, source.hasColumn column = true
  other : ∀ column ∈ clause.referenced target, target.hasColumn column = true

/-- A clause is resolved just when it is between two tables that have all of its columns, and refers
to as many columns as it has. -/
theorem resolve_eq_ok_iff :
    clause.resolve tables = .ok references ↔
      ∃ source target, clause.Resolves tables source target ∧
        references = clause.references source target := by
  constructor
  · intro h
    unfold resolve at h
    cases hsource : tables.get? clause.table with
    | none =>
      rw [hsource] at h
      cases h
    | some source =>
      cases htarget : tables.get? clause.targetTable with
      | none =>
        rw [hsource, htarget] at h
        cases h
      | some target =>
        simp only [hsource, htarget] at h
        split at h
        · cases h
        next hne =>
        split at h
        · cases h
        next hlength =>
        split at h
        · cases h
        next hown =>
        split at h
        · cases h
        next hother =>
        cases h
        exact ⟨source, target, ⟨hsource, htarget, hne, Decidable.not_not.1 hlength,
          Table.missingColumn?_eq_none.1 hown, Table.missingColumn?_eq_none.1 hother⟩, rfl⟩
  · rintro ⟨source, target, h, rfl⟩
    unfold resolve
    simp only [h.get?_source, h.get?_target]
    rw [if_neg h.referenced_ne, if_neg (Decidable.not_not.2 h.length_eq)]
    simp only [Table.missingColumn?_eq_none.2 h.own, Table.missingColumn?_eq_none.2 h.other]

/-- A foreign key that a clause declares is from one of its columns to one that it refers to. -/
theorem mem_references {source target : Table} {key : ForeignKey}
    (h : key ∈ clause.references source target) :
    ∃ own ∈ clause.columns, ∃ other ∈ clause.referenced target,
      key = ⟨source.qualifiedName, own, target.qualifiedName, other⟩ := by
  rw [references, ← List.map_uncurry_zip_eq_zipWith, List.mem_map] at h
  obtain ⟨⟨own, other⟩, hpair, rfl⟩ := h
  obtain ⟨hown, hother⟩ := List.of_mem_zip hpair
  exact ⟨own, hown, other, hother, rfl⟩

end Sql.ForeignKeyClause

namespace Schema

variable {tables : Registry Table} {ss : List Statement}

/-- A foreign key that is declared comes from a clause that can be resolved. -/
theorem exists_of_mem_declareForeignKeys {key : ForeignKey}
    (h : key ∈ (declareForeignKeys tables ss).1) :
    ∃ (clause : ForeignKeyClause) (references : List ForeignKey),
      clause.resolve tables = .ok references ∧ key ∈ references := by
  induction ss with
  | nil => cases h
  | cons s ss ih =>
    cases s with
    | createTable table line => exact ih h
    | addPrimaryKey table columns line => exact ih h
    | addForeignKey clause line =>
      rw [declareForeignKeys] at h
      cases hresolve : clause.resolve tables with
      | ok references =>
        rw [hresolve] at h
        rcases List.mem_append.1 h with h | h
        · exact ⟨clause, references, hresolve, h⟩
        · exact ih h
      | error cause =>
        rw [hresolve] at h
        exact ih h

/-- The foreign keys of declarations are between columns of the tables. -/
theorem columns_of_mem_declareForeignKeys (hkeyed : Keyed tables) {key : ForeignKey}
    (h : key ∈ (declareForeignKeys tables ss).1) :
    ∃ source target,
      tables.get? key.sourceTable = some source ∧ source.hasColumn key.sourceColumn = true ∧
        tables.get? key.targetTable = some target ∧ target.hasColumn key.targetColumn = true := by
  obtain ⟨clause, references, hresolve, hmem⟩ := exists_of_mem_declareForeignKeys h
  obtain ⟨source, target, hbetween, rfl⟩ := ForeignKeyClause.resolve_eq_ok_iff.1 hresolve
  obtain ⟨own, ho, other, hr, rfl⟩ := ForeignKeyClause.mem_references hmem
  refine ⟨source, target, ?_, hbetween.own own ho, ?_, hbetween.other other hr⟩
  · rw [hkeyed _ _ hbetween.get?_source, hbetween.get?_source]
  · rw [hkeyed _ _ hbetween.get?_target, hbetween.get?_target]

/-! ## Whole scripts -/

/-- Primary keys are about columns of their tables, since none is declared with its table. -/
theorem primaryKey_ofText (text : String) :
    (ofText text).1.tables.Forall fun _ table =>
      table.primaryKey.Nodup ∧ ∀ column ∈ table.primaryKey, table.hasColumn column = true := by
  refine forall_ofStatements (fun _ table columns _ => primaryKey_withPrimaryKey table columns) ?_
  intro table line ht
  have hnone : table.primaryKey = [] := Statement.keyless_collect _ (.createTable table line) ht
  rw [hnone]
  exact ⟨List.nodup_nil, List.forall_mem_nil _⟩

end Schema

/-! ## Names -/

/-- A qualified name tells its two parts, when the schema's name has no point. -/
theorem qualify_inj {schema schema' table table' : String} (h : '.' ∉ schema.toList)
    (h' : '.' ∉ schema'.toList) (he : qualify schema table = qualify schema' table') :
    schema = schema' ∧ table = table' := by
  have hschema : schema = schema' := by
    rw [← Schema.schemaOf_qualify h table, he, Schema.schemaOf_qualify h']
  refine ⟨hschema, ?_⟩
  rw [qualify, qualify, hschema] at he
  exact (String.append_right_inj _).1 he

namespace Schema

variable {s : Schema} {name : String} {table : Table}

/-- The schema of a table can be told from the name under which the table stands. -/
theorem Closed.schemaOf_eq (h : s.Closed) (ht : s.tables.get? name = some table) :
    schemaOf name = table.schema := by
  rw [← h.keyed name table ht]
  exact schemaOf_qualify (h.plain name table ht) table.name

/-- No other table has the name under which a table stands, in whatever schema it is. -/
theorem Closed.qualify_ne (h : s.Closed) (ht : s.tables.get? name = some table)
    {schema' table' : String} (hplain : '.' ∉ schema'.toList)
    (hne : (schema', table') ≠ (table.schema, table.name)) : qualify schema' table' ≠ name := by
  intro he
  rw [← h.keyed name table ht] at he
  obtain ⟨hschema, htable⟩ := qualify_inj hplain (h.plain name table ht) he
  exact hne (Prod.ext hschema htable)

/-- The schema of every script is closed. The name under which a table stands tells the schema of
the table, and is the name of no other table. -/
theorem closed_ofText (text : String) :
    (ofText text).1.Closed ∧
      ∀ name table, (ofText text).1.tables.get? name = some table →
        schemaOf name = table.schema ∧
          ∀ schema' table', '.' ∉ schema'.toList →
            (schema', table') ≠ (table.schema, table.name) → qualify schema' table' ≠ name := by
  have hclosed : (ofText text).1.Closed :=
    { keyed := keyed_ofText text
      plain := plain_ofText text
      primaryKey := primaryKey_ofText text
      foreignKey := fun _ h => columns_of_mem_declareForeignKeys (keyed_ofText text) h }
  refine ⟨hclosed, fun name table ht => ⟨hclosed.schemaOf_eq ht, ?_⟩⟩
  intro schema' table' hplain hne
  exact hclosed.qualify_ne ht hplain hne

end Schema

end SchemaCanvas
