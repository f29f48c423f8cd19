import Mathlib.Data.List.Forall2
import SchemaCanvas.Proofs.Schema.Closed
import SchemaCanvas.Proofs.Schema.Reordered

/-!
# Foreign keys are resolved all or nothing

Every statement is accounted for (`Sql.Statement.Contributes`): a foreign key that can be resolved
gives one reference for each pair of its columns, any other foreign key gives a warning on its line,
and a statement of another kind gives nothing. The foreign keys of a schema are these references one
after another, in view of the tables that the schema ends up with, and the warnings come after those
that the script has without its foreign keys (`Schema.foreignKeys_ofStatements`).
-/

namespace SchemaCanvas

open Sql

namespace Sql

/-- Whether the statement declares a foreign key. -/
def Statement.isForeignKey : Statement → Bool
  | .createTable .. => false
  | .addPrimaryKey .. => false
  | .addForeignKey .. => true

/-- What a statement gives in view of the tables of its schema: foreign keys, and warnings that a
foreign key is left out. -/
inductive Statement.Contributes (tables : Registry Table) :
    Statement → List ForeignKey × List Warning → Prop
  | other {s : Statement} (h : s.isForeignKey = false) : Contributes tables s ([], [])
  | resolved {clause : ForeignKeyClause} {line : Nat} {source target : Table}
      (h : clause.Resolves tables source target) :
    Contributes tables (.addForeignKey clause line)
      ((clause.columns.zip (clause.referenced target)).map fun pair =>
        ⟨clause.table, pair.1, clause.targetTable, pair.2⟩, [])
  | dropped {clause : ForeignKeyClause} {line : Nat} {cause : ResolutionError}
      (h : ∀ source target, ¬ clause.Resolves tables source target)
      (hcause : clause.resolve tables = .error cause) :
    Contributes tables (.addForeignKey clause line)
      ([], [⟨.resolution, cause.message, some line⟩])

namespace ForeignKeyClause

variable {clause : ForeignKeyClause} {tables : Registry Table}

/-- Tables that stand under their names are referred to by the names that the clause has for
them. -/
theorem Resolves.references_eq {source target : Table} (h : clause.Resolves tables source target)
    (hkeyed : Keyed tables) :
    clause.references source target
      = (clause.columns.zip (clause.referenced target)).map fun pair =>
      ⟨clause.table, pair.1, clause.targetTable, pair.2⟩ := by
  rw [references, hkeyed _ _ h.get?_source, hkeyed _ _ h.get?_target,
    ← List.map_uncurry_zip_eq_zipWith]
  rfl

/-- A clause is resolved exactly if both tables are there with the columns that it needs. -/
theorem exists_resolve_eq_ok_iff :
    (∃ references, clause.resolve tables = .ok references) ↔
      ∃ source target, clause.Resolves tables source target := by
  simp only [resolve_eq_ok_iff]
  constructor
  · rintro ⟨_, source, target, h, -⟩
    exact ⟨source, target, h⟩
  · rintro ⟨source, target, h⟩
    exact ⟨_, source, target, h, rfl⟩

end ForeignKeyClause

end Sql

namespace Schema

variable {tables : Registry Table}

/-! ## One statement -/

/-- What the passes make of a statement is what it contributes. -/
theorem contributes (hkeyed : Keyed tables) (s : Statement) :
    s.Contributes tables (references tables s, referenceWarnings tables s) := by
  cases s with
  | createTable table line => exact .other rfl
  | addPrimaryKey name columns line => exact .other rfl
  | addForeignKey clause line =>
    rw [references, referenceWarnings]
    cases hresolve : clause.resolve tables with
    | ok refs =>
      obtain ⟨source, target, h, rfl⟩ := ForeignKeyClause.resolve_eq_ok_iff.1 hresolve
      rw [h.references_eq hkeyed]
      exact .resolved h
    | error cause =>
      refine .dropped (fun source target h => ?_) hresolve
      rw [ForeignKeyClause.resolve_eq_ok_iff.2 ⟨source, target, h, rfl⟩] at hresolve
      cases hresolve

/-! ## The other statements -/

/-- The statements that declare no foreign key. -/
def otherThanForeignKeys (ss : List Statement) : List Statement :=
  ss.filter fun s => !s.isForeignKey

/-- A pass in which foreign keys change nothing and are not warned of takes no notice of them. -/
theorem pass_otherThanForeignKeys {change : Registry Table → Statement → Registry Table}
    {warn : Registry Table → Statement → List Warning}
    (hchange : ∀ tables clause line, change tables (.addForeignKey clause line) = tables)
    (hwarn : ∀ tables clause line, warn tables (.addForeignKey clause line) = [])
    (tables : Registry Table) (ss : List Statement) :
    pass change warn tables (otherThanForeignKeys ss) = pass change warn tables ss := by
  induction ss generalizing tables with
  | nil => rfl
  | cons s ss ih =>
    cases s with
    | createTable table line =>
      have hkept : otherThanForeignKeys (.createTable table line :: ss)
          = .createTable table line :: otherThanForeignKeys ss := rfl
      rw [hkept, pass, pass, ih]
    | addPrimaryKey name columns line =>
      have hkept : otherThanForeignKeys (.addPrimaryKey name columns line :: ss)
          = .addPrimaryKey name columns line :: otherThanForeignKeys ss := rfl
      rw [hkept, pass, pass, ih]
    | addForeignKey clause line =>
      rw [pass, hchange, hwarn]
      exact ih tables

/-- The declarations of foreign keys declare no tables. -/
theorem declareTables_otherThanForeignKeys (tables : Registry Table) (ss : List Statement) :
    declareTables tables (otherThanForeignKeys ss) = declareTables tables ss := by
  rw [declareTables_eq_pass, declareTables_eq_pass]
  exact pass_otherThanForeignKeys (fun _ _ _ => rfl) (fun _ _ _ => rfl) tables ss

/-- The declarations of foreign keys give no table a primary key. -/
theorem declarePrimaryKeys_otherThanForeignKeys (tables : Registry Table) (ss : List Statement) :
    declarePrimaryKeys tables (otherThanForeignKeys ss) = declarePrimaryKeys tables ss := by
  rw [declarePrimaryKeys_eq_pass, declarePrimaryKeys_eq_pass]
  exact pass_otherThanForeignKeys (fun _ _ _ => rfl) (fun _ _ _ => rfl) tables ss

/-- Without declarations of foreign keys there are no foreign keys, and no warnings about any. -/
theorem declareForeignKeys_otherThanForeignKeys (tables : Registry Table) (ss : List Statement) :
    declareForeignKeys tables (otherThanForeignKeys ss) = ([], []) := by
  induction ss with
  | nil => rfl
  | cons s ss ih =>
    cases s with
    | createTable table line => exact ih
    | addPrimaryKey name columns line => exact ih
    | addForeignKey clause line => exact ih

/-! ## Whole schemas -/

/-- **Foreign keys are resolved all or nothing, and none is lost without a word.** A clause can be
resolved just when its two tables are in the schema and have all the columns. Every statement makes
its contribution to the foreign keys and to the warnings, in the order of the statements, and
nothing else does: all other warnings, and the tables, are those of the script without its foreign
keys. -/
theorem foreignKeys_ofStatements (ss : List Statement) :
    (∀ clause : ForeignKeyClause,
      (∃ references, clause.resolve (ofStatements ss).1.tables = .ok references) ↔
        ∃ source target, clause.Resolves (ofStatements ss).1.tables source target) ∧
    ∃ contributions : List (List ForeignKey × List Warning),
      List.Forall₂ (Statement.Contributes (ofStatements ss).1.tables) ss contributions ∧
        (ofStatements ss).1.foreignKeys = contributions.flatMap Prod.fst ∧
        (ofStatements ss).1.tables = (ofStatements (otherThanForeignKeys ss)).1.tables ∧
        (ofStatements ss).2
          = (ofStatements (otherThanForeignKeys ss)).2 ++ contributions.flatMap Prod.snd := by
  refine ⟨fun clause => ForeignKeyClause.exists_resolve_eq_ok_iff, ss.map fun s =>
    (references (ofStatements ss).1.tables s, referenceWarnings (ofStatements ss).1.tables s),
    ?_, ?_, ?_, ?_⟩
  · rw [List.forall₂_map_right_iff, List.forall₂_same]
    exact fun s _ => contributes (keyed_ofStatements ss) s
  · rw [List.flatMap_map, ofStatements, declareForeignKeys_eq_flatMap]
  · rw [ofStatements, ofStatements, declareTables_otherThanForeignKeys,
      declarePrimaryKeys_otherThanForeignKeys]
  · rw [List.flatMap_map, ofStatements, ofStatements, declareTables_otherThanForeignKeys,
      declarePrimaryKeys_otherThanForeignKeys, declareForeignKeys_otherThanForeignKeys,
      declareForeignKeys_eq_flatMap, List.append_nil]

end Schema

end SchemaCanvas
