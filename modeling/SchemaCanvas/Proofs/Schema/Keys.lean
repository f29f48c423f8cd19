import SchemaCanvas.Proofs.Registry
import SchemaCanvas.Proofs.Sql.Declared
import SchemaCanvas.Proofs.Text.Cut
import SchemaCanvas.Schema.Build

/-!
# Tables stand under their qualified names

What all declared tables of a script have in common, and a primary key does not change, the tables
of its schema have in common (`Schema.forall_ofStatements`). So every table stands under its own
qualified name (`Schema.keyed_ofText`), and since no schema has a point in its name, the schema of a
table can be told from the table's qualified name (`Schema.mem_tablesIn_schemaOf`). The schemas that
hold tables are those of the qualified names (`Schema.exists_contains_of_mem_schemaNames`).
-/

namespace SchemaCanvas

open Sql

/-- Whether every table of a registry stands under its own qualified name. -/
def Keyed (tables : Registry Table) : Prop :=
  ∀ name table, tables.get? name = some table → table.qualifiedName = name

namespace Schema

section Forall

variable {P : String → Table → Prop} {tables : Registry Table} {ss : List Statement}

/-- The pass over the tables puts each one under its own name. -/
theorem forall_declareTables (h : tables.Forall P)
    (hss : ∀ table line, .createTable table line ∈ ss → P table.qualifiedName table) :
    (declareTables tables ss).1.Forall P := by
  induction ss generalizing tables with
  | nil => exact h
  | cons s ss ih =>
    have hmore : ∀ table line, .createTable table line ∈ ss → P table.qualifiedName table :=
      fun table line ht => hss table line (List.mem_cons_of_mem _ ht)
    cases s with
    | createTable table line =>
      have htable := h.insert (hss table line List.mem_cons_self)
      rw [declareTables]
      split
      · exact ih htable hmore
      · exact ih htable hmore
    | addPrimaryKey name columns line => exact ih h hmore
    | addForeignKey clause line => exact ih h hmore

/-- The pass over the primary keys changes tables where they stand. -/
theorem forall_declarePrimaryKeys
    (hkey : ∀ name table columns, P name table → P name (withPrimaryKey table columns))
    (h : tables.Forall P) : (declarePrimaryKeys tables ss).1.Forall P := by
  induction ss generalizing tables with
  | nil => exact h
  | cons s ss ih =>
    cases s with
    | createTable table line => exact ih h
    | addPrimaryKey name columns line =>
      rw [declarePrimaryKeys]
      cases ht : tables.get? name with
      | none => exact ih h
      | some table => exact ih (h.insert (hkey name table columns (h name table ht)))
    | addForeignKey clause line => exact ih h

/-- What the declared tables have in common under their names, whatever their primary keys, all
tables of the schema have. -/
theorem forall_ofStatements
    (hkey : ∀ name table columns, P name table → P name (withPrimaryKey table columns))
    (hss : ∀ table line, .createTable table line ∈ ss → P table.qualifiedName table) :
    (ofStatements ss).1.tables.Forall P :=
  forall_declarePrimaryKeys hkey (forall_declareTables Registry.forall_empty hss)

end Forall

/-- Every declared table stands under its own qualified name. -/
theorem keyed_ofStatements (ss : List Statement) : Keyed (ofStatements ss).1.tables :=
  forall_ofStatements (P := fun name table => table.qualifiedName = name)
    (fun _ _ _ h => h) fun _ _ _ => rfl

/-- Every table of a schema that is read from a text stands under its qualified name. -/
theorem keyed_ofText (text : String) : Keyed (ofText text).1.tables :=
  keyed_ofStatements _

/-- No table of a script is in a schema with a point in its name. -/
theorem plain_ofText (text : String) :
    (ofText text).1.tables.Forall fun _ table => '.' ∉ table.schema.toList :=
  forall_ofStatements (fun _ _ _ h => h) fun table line ht =>
    Statement.plain_collect _ (.createTable table line) ht

variable {s : Schema}

/-- The name of every table has a point in it. -/
theorem mem_of_contains (h : Keyed s.tables) {name : String} (hn : s.contains name = true) :
    '.' ∈ name.toList := by
  obtain ⟨table, ht⟩ := Registry.exists_get? (Registry.contains_iff.1 hn)
  rw [← h name table ht, Table.qualifiedName, qualify]
  simp

/-- The schema of a qualified name, when the schema's name has no point. -/
theorem schemaOf_qualify {schema : String} (h : '.' ∉ schema.toList) (table : String) :
    schemaOf (qualify schema table) = schema := by
  have hname : (qualify schema table).toList = schema.toList ++ ('.' :: table.toList) := by
    simp [qualify]
  rw [schemaOf, hname, Text.cutAt_append_cons h, String.ofList_toList]

/-- A table of a script is among the tables of the schema that its qualified name tells. -/
theorem mem_tablesIn_schemaOf {text name : String} (h : (ofText text).1.contains name = true) :
    name ∈ (ofText text).1.tablesIn (schemaOf name) := by
  obtain ⟨table, ht⟩ := Registry.exists_get? (Registry.contains_iff.1 h)
  obtain rfl := keyed_ofText text name table ht
  have hvalue : table ∈ (ofText text).1.tables.values :=
    List.mem_map_of_mem (Registry.get?_eq_some.1 ht)
  have hschema : table.schema = schemaOf table.qualifiedName :=
    (schemaOf_qualify (plain_ofText text _ table ht) table.name).symm
  exact List.mem_map_of_mem (List.mem_filter.2 ⟨hvalue, decide_eq_true hschema⟩)

/-- Every schema of a script's tables is the one of a table's qualified name, and the table is
there. -/
theorem exists_contains_of_mem_schemaNames (h : Keyed s.tables) {schema : String}
    (hs : schema ∈ s.schemaNames) :
    ∃ table : Table, table.schema = schema ∧ s.contains table.qualifiedName = true ∧
      table.qualifiedName ∈ s.tablesIn schema := by
  obtain ⟨table, htable, rfl⟩ := List.mem_map.1 (mem_distinct.1 hs)
  obtain ⟨item, hitem, rfl⟩ := List.mem_map.1 htable
  have hname := h item.1 item.2 (Registry.get?_eq_some.2 hitem)
  refine ⟨item.2, rfl, ?_, ?_⟩
  · rw [hname, contains, Registry.contains_iff]
    exact List.mem_map_of_mem hitem
  · exact List.mem_map_of_mem (List.mem_filter.2 ⟨htable, by simp⟩)

end Schema

end SchemaCanvas
