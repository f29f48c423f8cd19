import SchemaCanvas.Proofs.Sql.Alike
import SchemaCanvas.Proofs.Sql.Comment
import SchemaCanvas.Schema.Build

/-!
# A schema does not depend on where its script stands

Declarations that say the same on other lines are built into the same schema, with the same warnings
but for their lines (`Schema.ofStatements_same`). So two scripts with the same tokens in other
places have the same schema and the same warnings (`Schema.ofTokens_of_contents`).
-/

namespace SchemaCanvas

open Sql

/-- The warning without its line. -/
def Warning.withoutLine (w : Warning) : Warning :=
  { w with line := none }

namespace Schema

/-! ## Declarations on other lines -/

/-- The pass over the tables does not look at lines. -/
theorem declareTables_withoutLine (tables : Registry Table) (ss : List Statement) :
    (declareTables tables (ss.map Statement.withoutLine)).1 = (declareTables tables ss).1 ∧
      (declareTables tables (ss.map Statement.withoutLine)).2.map Warning.withoutLine
        = (declareTables tables ss).2.map Warning.withoutLine := by
  induction ss generalizing tables with
  | nil => exact ⟨rfl, rfl⟩
  | cons s ss ih =>
    cases s with
    | createTable table line =>
      obtain ⟨ht, hw⟩ := ih (tables.insert table.qualifiedName table)
      simp only [List.map_cons, Statement.withoutLine, declareTables]
      split
      · refine ⟨ht, ?_⟩
        rw [List.map_cons, List.map_cons, hw]
        rfl
      · exact ⟨ht, hw⟩
    | addPrimaryKey table columns line => exact ih tables
    | addForeignKey clause line => exact ih tables

/-- The pass over the primary keys does not look at lines. -/
theorem declarePrimaryKeys_withoutLine (tables : Registry Table) (ss : List Statement) :
    (declarePrimaryKeys tables (ss.map Statement.withoutLine)).1
        = (declarePrimaryKeys tables ss).1 ∧
      (declarePrimaryKeys tables (ss.map Statement.withoutLine)).2.map Warning.withoutLine
        = (declarePrimaryKeys tables ss).2.map Warning.withoutLine := by
  induction ss generalizing tables with
  | nil => exact ⟨rfl, rfl⟩
  | cons s ss ih =>
    cases s with
    | createTable table line => exact ih tables
    | addPrimaryKey name columns line =>
      simp only [List.map_cons, Statement.withoutLine, declarePrimaryKeys]
      cases tables.get? name with
      | none =>
        obtain ⟨ht, hw⟩ := ih tables
        refine ⟨ht, ?_⟩
        rw [List.map_cons, List.map_cons, hw]
        rfl
      | some table =>
        obtain ⟨ht, hw⟩ := ih (tables.insert name (withPrimaryKey table columns))
        refine ⟨ht, ?_⟩
        rw [List.map_append, List.map_append, hw, List.map_map, List.map_map]
        rfl
    | addForeignKey clause line => exact ih tables

/-- The pass over the foreign keys does not look at lines. -/
theorem declareForeignKeys_withoutLine (tables : Registry Table) (ss : List Statement) :
    (declareForeignKeys tables (ss.map Statement.withoutLine)).1
        = (declareForeignKeys tables ss).1 ∧
      (declareForeignKeys tables (ss.map Statement.withoutLine)).2.map Warning.withoutLine
        = (declareForeignKeys tables ss).2.map Warning.withoutLine := by
  induction ss with
  | nil => exact ⟨rfl, rfl⟩
  | cons s ss ih =>
    obtain ⟨hk, hw⟩ := ih
    cases s with
    | createTable table line => exact ⟨hk, hw⟩
    | addPrimaryKey name columns line => exact ⟨hk, hw⟩
    | addForeignKey clause line =>
      simp only [List.map_cons, Statement.withoutLine, declareForeignKeys]
      cases clause.resolve tables with
      | ok references => exact ⟨by rw [hk], hw⟩
      | error cause =>
        refine ⟨hk, ?_⟩
        rw [List.map_cons, List.map_cons, hw]
        rfl

/-- The lines of statements tell in the lines of the warnings only. -/
theorem ofStatements_withoutLine (ss : List Statement) :
    (ofStatements (ss.map Statement.withoutLine)).1 = (ofStatements ss).1 ∧
      (ofStatements (ss.map Statement.withoutLine)).2.map Warning.withoutLine
        = (ofStatements ss).2.map Warning.withoutLine := by
  obtain ⟨ht, htw⟩ := declareTables_withoutLine ∅ ss
  obtain ⟨hp, hpw⟩ := declarePrimaryKeys_withoutLine (declareTables ∅ ss).1 ss
  obtain ⟨hf, hfw⟩ := declareForeignKeys_withoutLine
    (declarePrimaryKeys (declareTables ∅ ss).1 ss).1 ss
  simp only [ofStatements, List.map_append, ht, hp, hf, htw, hpw, hfw, and_self]

/-- Declarations that say the same have the same schema, and the same warnings but for their
lines. -/
theorem ofStatements_same {ss ss' : List Statement} (h : SameStatements ss ss') :
    (ofStatements ss).1 = (ofStatements ss').1 ∧
      (ofStatements ss).2.map Warning.withoutLine
        = (ofStatements ss').2.map Warning.withoutLine := by
  obtain ⟨hs, hw⟩ := ofStatements_withoutLine ss
  obtain ⟨hs', hw'⟩ := ofStatements_withoutLine ss'
  rw [h] at hs hw
  exact ⟨hs.symm.trans hs', hw.symm.trans hw'⟩

/-! ## Tokens in other places -/

/-- Tokens that say the same, wherever they stand. -/
def likeContent : Likeness where
  token t u := t.content = u.content
  cause := Eq
  alike h := by
    obtain ⟨hk, hv⟩ := Prod.mk.inj h
    exact ⟨hk, by rw [Token.keyword?, Token.keyword?, hk, hv],
      by rw [Statement.typeText, Statement.typeText, hk, hv]⟩
  cause_refl _ := rfl
  expected _ h := by
    obtain ⟨hk, hv⟩ := Prod.mk.inj h
    rw [hk, hv]

/-- Scripts with the same tokens have the same schema, and the same warnings but for their lines. -/
theorem ofTokens_of_contents {ts us : List Token}
    (h : ts.map Token.content = us.map Token.content) :
    (ofTokens ts).1 = (ofTokens us).1 ∧
      (ofTokens ts).2.map Warning.withoutLine = (ofTokens us).2.map Warning.withoutLine := by
  have hlike : likeContent.tokens ts us := by
    rw [← List.forall₂_eq_eq_eq, List.forall₂_map_left_iff, List.forall₂_map_right_iff] at h
    exact h
  obtain ⟨hs, hw⟩ := Likeness.collect_alike hlike
  obtain ⟨hschema, hbuilt⟩ := ofStatements_same hs
  refine ⟨hschema, ?_⟩
  have hread : (Statement.collect ts).2.map Warning.withoutLine
      = (Statement.collect us).2.map Warning.withoutLine := by
    rw [← List.forall₂_eq_eq_eq, List.forall₂_map_left_iff, List.forall₂_map_right_iff]
    refine hw.imp fun w w' hww => ?_
    obtain ⟨hkind, c, _, rfl, hm, hm'⟩ := hww
    rw [Warning.withoutLine, Warning.withoutLine, hkind, hm, hm']
  rw [ofTokens, ofTokens, List.map_append, List.map_append, hread, hbuilt]

end Schema

end SchemaCanvas
