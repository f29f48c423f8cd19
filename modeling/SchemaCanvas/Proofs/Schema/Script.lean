import SchemaCanvas.Proofs.Schema.Closed
import SchemaCanvas.Proofs.Sql.Declaring

/-!
# Schemas as scripts

A schema is written as a script that declares its tables, then their primary keys, then the foreign
keys (`Schema.script`). The declarations build the schema again: each table is put in without its
primary key (`Schema.declareTables_created`), each primary key completes its table
(`Schema.declarePrimaryKeys_completed`), and each foreign key is resolved between the two columns
that it is about (`Schema.declareForeignKeys_resolved`). So a closed schema with plain types is read
back from its script, whatever its names are (`Schema.ofText_script`).
-/

namespace SchemaCanvas

open Sql

/-- The table without its primary key. -/
def Table.unkeyed (t : Table) : Table :=
  { t with primaryKey := [] }

namespace Schema

/-! ## Scripts -/

/-- The statement that declares a foreign key between tables of the schema. -/
def foreignKeyDeclaration (s : Schema) (key : ForeignKey) : String :=
  match s.tables.get? key.sourceTable, s.tables.get? key.targetTable with
  | some source, some target =>
    source.foreignKeyDeclaration key.sourceColumn target key.targetColumn
  | _, _ => ""

/-- The script that declares the tables of a schema, then their primary keys, then the foreign
keys. -/
def script (s : Schema) : String :=
  String.join (s.tables.values.map Table.declaration) ++
    String.join (s.tables.values.map Table.primaryKeyDeclaration) ++
    String.join (s.foreignKeys.map s.foreignKeyDeclaration)

/-! ## The declarations of a script -/

/-- The declaration of a table. -/
def tableStatement (t : Table) : List Statement :=
  [.createTable t.unkeyed 1]

/-- The declaration of a table's primary key, if it has one. -/
def primaryKeyStatement (t : Table) : List Statement :=
  if t.primaryKey = [] then [] else [.addPrimaryKey t.qualifiedName t.primaryKey 1]

/-- The declaration of a foreign key. -/
def foreignKeyStatement (key : ForeignKey) : List Statement :=
  [.addForeignKey ⟨key.sourceTable, [key.sourceColumn], key.targetTable, [key.targetColumn]⟩ 1]

/-- The declarations of a schema. -/
def statements (s : Schema) : List Statement :=
  s.tables.values.flatMap tableStatement ++ s.tables.values.flatMap primaryKeyStatement ++
    s.foreignKeys.flatMap foreignKeyStatement

variable {s : Schema}

/-- Each table of a closed schema is found under its qualified name. -/
theorem Closed.of_mem_values (h : s.Closed) {t : Table} (ht : t ∈ s.tables.values) :
    s.tables.get? t.qualifiedName = some t := by
  obtain ⟨item, hi, rfl⟩ := List.mem_map.1 ht
  have hget := Registry.get?_eq_some.2 hi
  rwa [h.keyed item.1 item.2 hget]

/-- The script of a closed schema with plain types is read as the declarations of the schema. -/
theorem declares_script (h : s.Closed)
    (htypes : s.tables.Forall fun _ table => ∀ c ∈ table.columns, c.Plain) :
    Declares s.script s.statements := by
  have hplain : ∀ t ∈ s.tables.values, '.' ∉ t.schema.toList := fun t ht =>
    h.plain _ t (h.of_mem_values ht)
  refine .append (.append (.join fun t ht => ?_) (.join fun t ht => ?_)) (.join fun key hkey => ?_)
  · exact declares_declaration (hplain t ht) (htypes _ t (h.of_mem_values ht))
  · exact declares_primaryKeyDeclaration (hplain t ht)
  · obtain ⟨source, target, hsource, -, htarget, -⟩ := h.foreignKey key hkey
    have hdeclares := declares_foreignKeyDeclaration (h.plain _ source hsource)
      (h.plain _ target htarget) key.sourceColumn key.targetColumn
    rw [h.keyed _ source hsource, h.keyed _ target htarget] at hdeclares
    rw [foreignKeyDeclaration, hsource, htarget]
    exact hdeclares

/-! ## Building the schema again -/

/-- Declarations of other things put no table into a registry. -/
theorem declareTables_of_forall {tables : Registry Table} {ss : List Statement}
    (h : ∀ s ∈ ss, ∀ table line, s ≠ .createTable table line) :
    declareTables tables ss = (tables, []) := by
  induction ss with
  | nil => rfl
  | cons s ss ih =>
    have hmore := ih fun u hu => h u (List.mem_cons_of_mem s hu)
    cases s with
    | createTable table line => exact absurd rfl (h _ List.mem_cons_self table line)
    | addPrimaryKey table columns line => exact hmore
    | addForeignKey clause line => exact hmore

/-- New tables are put in one after another. -/
theorem declareTables_created {ts : List Table} {tables : Registry Table} {ss : List Statement}
    (hnew : (tables.keys ++ ts.map Table.qualifiedName).Nodup) :
    declareTables tables (ts.flatMap tableStatement ++ ss)
      = declareTables
        ((ts.map fun t => (t.qualifiedName, t.unkeyed)).foldl (fun r item => r.insert item.1 item.2)
          tables) ss := by
  induction ts generalizing tables with
  | nil => rfl
  | cons t ts ih =>
    have hfresh : t.qualifiedName ∉ tables.keys := by
      rw [List.nodup_append] at hnew
      exact fun hmem => hnew.2.2 _ hmem _ List.mem_cons_self rfl
    have hkeys : (tables.insert t.qualifiedName t.unkeyed).keys
        = tables.keys ++ [t.qualifiedName] := by
      rw [Registry.keys_insert, if_neg hfresh]
    have hcontains : ¬ tables.contains t.unkeyed.qualifiedName = true := fun hc =>
      hfresh (Registry.contains_iff.1 hc)
    have hmore := @ih (tables.insert t.qualifiedName t.unkeyed) (by
      rw [hkeys, List.append_assoc]
      exact hnew)
    rw [List.flatMap_cons, tableStatement, List.cons_append, List.nil_append, List.cons_append,
      declareTables, if_neg hcontains]
    exact hmore

/-- Declarations of other things complete no table. -/
theorem declarePrimaryKeys_of_forall {tables : Registry Table} {ss more : List Statement}
    (h : ∀ s ∈ ss, ∀ name columns line, s ≠ .addPrimaryKey name columns line) :
    declarePrimaryKeys tables (ss ++ more) = declarePrimaryKeys tables more := by
  induction ss with
  | nil => rfl
  | cons s ss ih =>
    have hmore := ih fun u hu => h u (List.mem_cons_of_mem s hu)
    cases s with
    | createTable table line => exact hmore
    | addPrimaryKey name columns line => exact absurd rfl (h _ List.mem_cons_self name columns line)
    | addForeignKey clause line => exact hmore

/-- A primary key of distinct columns of a table completes the table. -/
theorem withPrimaryKey_unkeyed {t : Table} (hnodup : t.primaryKey.Nodup)
    (hcolumns : ∀ column ∈ t.primaryKey, t.hasColumn column = true) :
    withPrimaryKey t.unkeyed t.primaryKey = t := by
  have hkey : t.primaryKey.filter t.unkeyed.hasColumn = t.primaryKey :=
    List.filter_eq_self.2 hcolumns
  rw [withPrimaryKey, hkey, distinct_of_nodup hnodup]
  rfl

/-- Primary keys complete the tables one after another. -/
theorem declarePrimaryKeys_completed {ts : List Table} {tables : Registry Table}
    {ss : List Statement} (hnames : (ts.map Table.qualifiedName).Nodup)
    (hunkeyed : ∀ t ∈ ts, tables.get? t.qualifiedName = some t.unkeyed)
    (hkeys : ∀ t ∈ ts, t.primaryKey.Nodup ∧
      ∀ column ∈ t.primaryKey, t.hasColumn column = true) :
    declarePrimaryKeys tables (ts.flatMap primaryKeyStatement ++ ss)
      = declarePrimaryKeys
        ((ts.map fun t => (t.qualifiedName, t)).foldl (fun r item => r.insert item.1 item.2) tables)
        ss := by
  induction ts generalizing tables with
  | nil => rfl
  | cons t ts ih =>
    obtain ⟨hnew, hrest⟩ := List.nodup_cons.1 hnames
    obtain ⟨hnodup, hcolumns⟩ := hkeys t List.mem_cons_self
    have hget := hunkeyed t List.mem_cons_self
    have hmore := @ih (tables.insert t.qualifiedName t) hrest (fun u hu => by
        have hne : u.qualifiedName ≠ t.qualifiedName := fun e =>
          hnew (e ▸ List.mem_map_of_mem hu)
        rw [Registry.get?_insert_of_ne hne, hunkeyed u (List.mem_cons_of_mem t hu)])
      fun u hu => hkeys u (List.mem_cons_of_mem t hu)
    rw [List.flatMap_cons, List.append_assoc, primaryKeyStatement]
    by_cases hnone : t.primaryKey = []
    · have hsame : tables.insert t.qualifiedName t = tables := by
        refine Registry.insert_of_get? (hget.trans (congrArg some ?_))
        rw [Table.unkeyed, ← hnone]
      rw [hsame] at hmore
      rw [if_pos hnone, List.nil_append, List.map_cons, List.foldl_cons, hsame]
      exact hmore
    · have hunknown : t.primaryKey.filter (fun column => !t.unkeyed.hasColumn column) = [] :=
        List.filter_eq_nil_iff.2 fun column hc => by
          have hknown : t.unkeyed.hasColumn column = true := hcolumns column hc
          simp [hknown]
      rw [if_neg hnone, List.cons_append, List.nil_append, declarePrimaryKeys, hget]
      simp only [withPrimaryKey_unkeyed hnodup hcolumns, hunknown]
      exact hmore

/-- Declarations of other things refer to nothing. -/
theorem declareForeignKeys_of_forall {tables : Registry Table} {ss more : List Statement}
    (h : ∀ s ∈ ss, ∀ clause line, s ≠ .addForeignKey clause line) :
    declareForeignKeys tables (ss ++ more) = declareForeignKeys tables more := by
  induction ss with
  | nil => rfl
  | cons s ss ih =>
    have hmore := ih fun u hu => h u (List.mem_cons_of_mem s hu)
    cases s with
    | createTable table line => exact hmore
    | addPrimaryKey name columns line => exact hmore
    | addForeignKey clause line => exact absurd rfl (h _ List.mem_cons_self clause line)

/-- A clause from one column of a table to one column of a table stands for one reference. -/
theorem resolve_single {tables : Registry Table} {key : ForeignKey} {source target : Table}
    (hsource : tables.get? key.sourceTable = some source)
    (hcolumn : source.hasColumn key.sourceColumn = true)
    (htarget : tables.get? key.targetTable = some target)
    (hreferenced : target.hasColumn key.targetColumn = true) :
    ForeignKeyClause.resolve
        ⟨key.sourceTable, [key.sourceColumn], key.targetTable, [key.targetColumn]⟩ tables
      = .ok [⟨source.qualifiedName, key.sourceColumn, target.qualifiedName, key.targetColumn⟩] := by
  have hresolves : ForeignKeyClause.Resolves
      ⟨key.sourceTable, [key.sourceColumn], key.targetTable, [key.targetColumn]⟩ tables source
      target :=
    { get?_source := hsource
      get?_target := htarget
      referenced_ne := List.cons_ne_nil _ _
      length_eq := rfl
      own := fun name hname => by rwa [List.mem_singleton.1 hname]
      other := fun name hname => by rwa [List.mem_singleton.1 hname] }
  exact ForeignKeyClause.resolve_eq_ok_iff.2 ⟨source, target, hresolves, rfl⟩

/-- Foreign keys between columns of tables are resolved to themselves. -/
theorem declareForeignKeys_resolved {tables : Registry Table} (hkeyed : Keyed tables)
    {keys : List ForeignKey}
    (h : ∀ key ∈ keys, ∃ source target,
      tables.get? key.sourceTable = some source ∧ source.hasColumn key.sourceColumn = true ∧
        tables.get? key.targetTable = some target ∧ target.hasColumn key.targetColumn = true) :
    declareForeignKeys tables (keys.flatMap foreignKeyStatement) = (keys, []) := by
  induction keys with
  | nil => rfl
  | cons key keys ih =>
    obtain ⟨source, target, hsource, hcolumn, htarget, hreferenced⟩ := h key List.mem_cons_self
    have hmore := ih fun other ho => h other (List.mem_cons_of_mem key ho)
    have hresolve := resolve_single hsource hcolumn htarget hreferenced
    rw [hkeyed _ source hsource, hkeyed _ target htarget] at hresolve
    rw [List.flatMap_cons, foreignKeyStatement, List.cons_append, List.nil_append,
      declareForeignKeys, hresolve, hmore]
    rfl

/-- The tables of a closed schema stand under their qualified names. -/
theorem Closed.items_eq (h : s.Closed) :
    s.tables.items = s.tables.values.map fun t => (t.qualifiedName, t) := by
  rw [Registry.values, List.map_map]
  refine ((List.map_congr_left fun item hi => ?_).trans (List.map_id _)).symm
  rw [Function.comp_apply, h.keyed item.1 item.2 (Registry.get?_eq_some.2 hi)]
  rfl

/-- No two tables of a closed schema have one qualified name. -/
theorem Closed.nodup_names (h : s.Closed) :
    (s.tables.values.map Table.qualifiedName).Nodup := by
  have hnodup := s.tables.nodup_keys
  rw [h.items_eq, List.map_map] at hnodup
  exact hnodup

/-- The tables of a schema without their primary keys. -/
def unkeyedTables (s : Schema) : Registry Table :=
  .ofList (s.tables.values.map fun t => (t.qualifiedName, t.unkeyed))

/-- Changing tables that keep their names keeps the names that they stand under. -/
theorem map_fst_named (f : Table → Table) (ts : List Table) :
    (ts.map fun t => (t.qualifiedName, f t)).map Prod.fst = ts.map Table.qualifiedName := by
  rw [List.map_map]
  rfl

/-- Without the primary keys each table is found where it was. -/
theorem Closed.get?_unkeyedTables (h : s.Closed) {t : Table} (ht : t ∈ s.tables.values) :
    s.unkeyedTables.get? t.qualifiedName = some t.unkeyed := by
  have hnodup := h.nodup_names
  rw [← map_fst_named Table.unkeyed] at hnodup
  rw [Registry.get?_eq_some, unkeyedTables, Registry.items_ofList hnodup]
  exact List.mem_map_of_mem ht

/-- The tables without their primary keys become the tables of the schema, when each is replaced. -/
theorem Closed.complete_unkeyedTables (h : s.Closed) :
    (s.tables.values.map fun t => (t.qualifiedName, t)).foldl (fun r item => r.insert item.1 item.2)
      s.unkeyedTables = s.tables := by
  have hsame := (map_fst_named Table.unkeyed s.tables.values).trans (map_fst_named id _).symm
  have hnodup := h.nodup_names
  rw [← map_fst_named id] at hnodup
  have hitems : Registry.ofList (s.tables.values.map fun t => (t.qualifiedName, t)) = s.tables := by
    rw [← h.items_eq, Registry.ofList_items]
  exact (Registry.foldl_insert_ofList hsame hnodup).trans hitems

/-- The statements of the first part of a script declare tables. -/
theorem exists_createTable {ts : List Table} {st : Statement} (h : st ∈ ts.flatMap tableStatement) :
    ∃ table line, st = .createTable table line := by
  obtain ⟨t, -, ht⟩ := List.mem_flatMap.1 h
  exact ⟨t.unkeyed, 1, List.mem_singleton.1 ht⟩

/-- The statements of the second part give primary keys. -/
theorem exists_addPrimaryKey {ts : List Table} {st : Statement}
    (h : st ∈ ts.flatMap primaryKeyStatement) :
    ∃ name columns line, st = .addPrimaryKey name columns line := by
  obtain ⟨t, -, ht⟩ := List.mem_flatMap.1 h
  unfold primaryKeyStatement at ht
  split at ht
  · cases ht
  · exact ⟨t.qualifiedName, t.primaryKey, 1, List.mem_singleton.1 ht⟩

/-- The statements of the last part declare foreign keys. -/
theorem exists_addForeignKey {keys : List ForeignKey} {st : Statement}
    (h : st ∈ keys.flatMap foreignKeyStatement) :
    ∃ clause line, st = .addForeignKey clause line := by
  obtain ⟨key, -, hkey⟩ := List.mem_flatMap.1 h
  exact ⟨_, 1, List.mem_singleton.1 hkey⟩

/-- The first pass puts the tables in without their primary keys. -/
theorem declareTables_statements (h : s.Closed) :
    declareTables ∅ s.statements = (s.unkeyedTables, []) := by
  have hnew : ((∅ : Registry Table).keys ++ s.tables.values.map Table.qualifiedName).Nodup :=
    h.nodup_names
  rw [statements, List.append_assoc, declareTables_created hnew]
  refine declareTables_of_forall fun st hst table line => ?_
  rcases List.mem_append.1 hst with hst | hst
  · obtain ⟨name, columns, line, rfl⟩ := exists_addPrimaryKey hst
    exact nofun
  · obtain ⟨clause, line, rfl⟩ := exists_addForeignKey hst
    exact nofun

/-- The second pass completes the tables. -/
theorem declarePrimaryKeys_statements (h : s.Closed) :
    declarePrimaryKeys s.unkeyedTables s.statements = (s.tables, []) := by
  have hcreated : ∀ st ∈ s.tables.values.flatMap tableStatement,
      ∀ name columns line, st ≠ .addPrimaryKey name columns line := by
    intro st hst name columns line
    obtain ⟨table, line, rfl⟩ := exists_createTable hst
    exact nofun
  have hreferring : ∀ st ∈ s.foreignKeys.flatMap foreignKeyStatement,
      ∀ name columns line, st ≠ .addPrimaryKey name columns line := by
    intro st hst name columns line
    obtain ⟨clause, line, rfl⟩ := exists_addForeignKey hst
    exact nofun
  have hnone : declarePrimaryKeys s.tables (s.foreignKeys.flatMap foreignKeyStatement)
      = (s.tables, []) := by
    have hskip := @declarePrimaryKeys_of_forall s.tables _ [] hreferring
    rwa [List.append_nil] at hskip
  rw [statements, List.append_assoc, declarePrimaryKeys_of_forall hcreated,
    declarePrimaryKeys_completed h.nodup_names (fun _ ht => h.get?_unkeyedTables ht)
      fun t ht => h.primaryKey _ t (h.of_mem_values ht),
    h.complete_unkeyedTables, hnone]

/-- The third pass resolves the foreign keys. -/
theorem declareForeignKeys_statements (h : s.Closed) :
    declareForeignKeys s.tables s.statements = (s.foreignKeys, []) := by
  rw [statements, declareForeignKeys_of_forall fun st hst clause line => ?_,
    declareForeignKeys_resolved h.keyed h.foreignKey]
  rcases List.mem_append.1 hst with hst | hst
  · obtain ⟨table, line, rfl⟩ := exists_createTable hst
    exact nofun
  · obtain ⟨name, columns, line, rfl⟩ := exists_addPrimaryKey hst
    exact nofun

/-- The declarations of a closed schema build the schema, and fit together. -/
theorem ofStatements_statements (h : s.Closed) : ofStatements s.statements = (s, []) := by
  rw [ofStatements, declareTables_statements h, declarePrimaryKeys_statements h,
    declareForeignKeys_statements h]
  rfl

/-- **Every schema can be written in SQL and read back.** A closed schema whose columns have plain
types is read from its script exactly as it is, with no warning. -/
theorem ofText_script (h : s.Closed)
    (htypes : s.tables.Forall fun _ table => ∀ c ∈ table.columns, c.Plain) :
    ofText s.script = (s, []) :=
  (declares_script h htypes).ofText_eq (ofStatements_statements h)

/-! Names with quotes, points, a line feed and no characters at all, a type with arguments and
brackets, a table without columns and a foreign key from a table to itself. -/

/-- A table with odd names. -/
def oddTable : Table :=
  ⟨"say \"hi\"", "a.b", [⟨"", "numeric(10,2)[]", false, true⟩, ⟨"x\ny", "text", true, false⟩],
    ["x\ny", ""]⟩

/-- A schema of odd names. -/
def oddSchema : Schema where
  tables := .ofList [("say \"hi\".a.b", oddTable), ("s.", ⟨"s", "", [], []⟩)]
  foreignKeys := [⟨"say \"hi\".a.b", "", "say \"hi\".a.b", "x\ny"⟩]

/-- The schema has a script with odd names, doubled quotes and a line feed in them, and is read back
from it. -/
theorem ofText_oddSchema :
    oddSchema.script
        = "CREATE TABLE \"say \"\"hi\"\"\".\"a.b\" " ++
            "(\"\" numeric(10,2)[] NOT NULL DEFAULT 0, \"x\ny\" text);\n" ++
          "CREATE TABLE \"s\".\"\" ();\n" ++
          "ALTER TABLE \"say \"\"hi\"\"\".\"a.b\" ADD PRIMARY KEY (\"x\ny\", \"\");\n" ++
          "ALTER TABLE \"say \"\"hi\"\"\".\"a.b\" ADD FOREIGN KEY (\"\") " ++
            "REFERENCES \"say \"\"hi\"\"\".\"a.b\" (\"x\ny\");\n" ∧
      ofText oddSchema.script = (oddSchema, []) := by
  have hclosed : oddSchema.Closed :=
    { keyed := Registry.forall_of_items (P := fun name (t : Table) => t.qualifiedName = name)
        (by decide +kernel)
      plain := Registry.forall_of_items (by decide +kernel)
      primaryKey := Registry.forall_of_items (by decide +kernel)
      foreignKey := fun key hkey => by
        obtain rfl := List.mem_singleton.1 hkey
        exact ⟨oddTable, oddTable, by decide +kernel⟩ }
  have htypes : oddSchema.tables.Forall fun _ table => ∀ c ∈ table.columns, c.Plain := by
    have hnumeric : Column.Plain ⟨"", "numeric(10,2)[]", false, true⟩ :=
      ⟨⟨"numeric", some ["10", "2"], 1, by decide, by decide, by decide, by decide⟩, by decide⟩
    have htext : Column.Plain ⟨"x\ny", "text", true, false⟩ :=
      ⟨⟨"text", none, 0, by decide, by decide, by decide, by decide⟩, by decide⟩
    refine Registry.forall_of_items fun item hi => ?_
    have hitems : oddSchema.tables.items
        = [("say \"hi\".a.b", oddTable), ("s.", ⟨"s", "", [], []⟩)] := by decide +kernel
    rw [hitems, List.mem_cons, List.mem_singleton] at hi
    rcases hi with rfl | rfl
    · exact List.forall_mem_cons.2 ⟨hnumeric, List.forall_mem_singleton.2 htext⟩
    · exact List.forall_mem_nil _
  exact ⟨by decide +kernel, ofText_script hclosed htypes⟩

end Schema

end SchemaCanvas
