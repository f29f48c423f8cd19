import SchemaCanvas.Proofs.Registry
import SchemaCanvas.Schema.Build

/-!
# The order of declarations

A schema is built of declarations in passes, and no pass looks at more than the tables that it has
so far. So two neighbours can change places unless both declare one table or both give a primary key
to one table (`Sql.Statement.Dependent`): the tables are the same afterwards, and so are the
warnings but for their order (`Schema.pass_reordered`). Declarations that are rearranged without a
change of the order in which each table is declared and given its keys are reordered by such changes
alone (`Sql.Statement.Rearranged.reordered`), so they have the same tables, and the same foreign
keys and warnings in some order (`Schema.ofStatements_rearranged`).
-/

namespace SchemaCanvas

open Sql

namespace Sql.Statement

/-- Whether the statement declares the table of this name. -/
def isDeclarationOf (name : String) : Statement → Bool
  | .createTable table _ => table.qualifiedName = name
  | .addPrimaryKey .. => false
  | .addForeignKey .. => false

/-- Whether the statement gives a primary key to the table of this name. -/
def isPrimaryKeyOf (name : String) : Statement → Bool
  | .createTable .. => false
  | .addPrimaryKey table _ _ => table = name
  | .addForeignKey .. => false

/-- Whether two statements both declare one table or both give a primary key to one table. -/
def Dependent (s u : Statement) : Prop :=
  ∃ name, s.isDeclarationOf name = true ∧ u.isDeclarationOf name = true ∨
    s.isPrimaryKeyOf name = true ∧ u.isPrimaryKeyOf name = true

/-- Two statements depend on each other or neither does on the other. -/
theorem Dependent.symm {s u : Statement} : s.Dependent u → u.Dependent s
  | ⟨name, .inl ⟨hs, hu⟩⟩ => ⟨name, .inl ⟨hu, hs⟩⟩
  | ⟨name, .inr ⟨hs, hu⟩⟩ => ⟨name, .inr ⟨hu, hs⟩⟩

/-- The same statements in another order, but with the declarations of each table in the same order
and its primary keys in the same order. -/
structure Rearranged (ss us : List Statement) : Prop where
  perm : ss.Perm us
  declarations : ∀ name, ss.filter (isDeclarationOf name) = us.filter (isDeclarationOf name)
  primaryKeys : ∀ name, ss.filter (isPrimaryKeyOf name) = us.filter (isPrimaryKeyOf name)

/-- Statements that are brought into another order by changing the places of neighbours that do not
depend on each other. -/
inductive Reordered : List Statement → List Statement → Prop
  | nil : Reordered [] []
  | cons (s : Statement) {ss us : List Statement} : Reordered ss us → Reordered (s :: ss) (s :: us)
  | swap {s u : Statement} (h : ¬ s.Dependent u) (ss : List Statement) :
    Reordered (s :: u :: ss) (u :: s :: ss)
  | trans {ss us vs : List Statement} : Reordered ss us → Reordered us vs → Reordered ss vs

/-! ## Rearranging by changes of neighbours -/

/-- Statements are a reordering of themselves. -/
theorem Reordered.refl (ss : List Statement) : Reordered ss ss := by
  induction ss with
  | nil => exact .nil
  | cons s ss ih => exact ih.cons s

/-- A statement moves past others that it does not depend on. -/
theorem Reordered.move {s : Statement} {before : List Statement}
    (h : ∀ u ∈ before, ¬ s.Dependent u) (after : List Statement) :
    Reordered (s :: (before ++ after)) (before ++ s :: after) := by
  induction before with
  | nil => exact .refl _
  | cons u before ih =>
    have hrest := ih fun v hv => h v (List.mem_cons_of_mem u hv)
    exact (Reordered.swap (h u List.mem_cons_self) _).trans (hrest.cons u)

namespace Rearranged

variable {s : Statement} {ss us before after : List Statement}

/-- The first of the statements stands in the other order behind statements that it does not depend
on: of the statements of its kind about its table it is the first there, too. -/
theorem exists_split (h : Rearranged (s :: ss) us) :
    ∃ before after, us = before ++ s :: after ∧ ∀ u ∈ before, ¬ s.Dependent u := by
  cases s with
  | createTable table line =>
    have hfirst := h.declarations table.qualifiedName
    rw [List.filter_cons_of_pos (by simp [isDeclarationOf])] at hfirst
    obtain ⟨before, after, hus, hnone, -, -⟩ := List.filter_eq_cons_iff.1 hfirst.symm
    refine ⟨before, after, hus, ?_⟩
    rintro u hu ⟨name, ⟨hs, hname⟩ | ⟨hs, -⟩⟩
    · rw [← of_decide_eq_true hs] at hname
      exact hnone u hu hname
    · cases hs
  | addPrimaryKey table columns line =>
    have hfirst := h.primaryKeys table
    rw [List.filter_cons_of_pos (by simp [isPrimaryKeyOf])] at hfirst
    obtain ⟨before, after, hus, hnone, -, -⟩ := List.filter_eq_cons_iff.1 hfirst.symm
    refine ⟨before, after, hus, ?_⟩
    rintro u hu ⟨name, ⟨hs, -⟩ | ⟨hs, hname⟩⟩
    · cases hs
    · rw [← of_decide_eq_true hs] at hname
      exact hnone u hu hname
  | addForeignKey clause line =>
    obtain ⟨before, after, hus⟩ := List.append_of_mem (h.perm.subset List.mem_cons_self)
    refine ⟨before, after, hus, ?_⟩
    rintro u hu ⟨name, ⟨hs, -⟩ | ⟨hs, -⟩⟩
    · cases hs
    · cases hs

/-- What is picked out of two lists stays the same when a statement is taken out of both, if none
before it is picked out with it. -/
theorem filter_eq_of_split {p : Statement → Bool}
    (h : (s :: ss).filter p = (before ++ s :: after).filter p)
    (hbefore : p s = true → ∀ u ∈ before, ¬ p u = true) :
    ss.filter p = (before ++ after).filter p := by
  rw [List.filter_append] at h ⊢
  by_cases hs : p s = true
  · have hnone : before.filter p = [] := List.filter_eq_nil_iff.2 (hbefore hs)
    rw [hnone, List.filter_cons_of_pos hs, List.filter_cons_of_pos hs, List.nil_append,
      List.cons.injEq] at h
    rw [hnone, List.nil_append, h.2]
  · rwa [List.filter_cons_of_neg hs, List.filter_cons_of_neg hs] at h

/-- The first statement can be taken out. -/
theorem tail (h : Rearranged (s :: ss) (before ++ s :: after))
    (hbefore : ∀ u ∈ before, ¬ s.Dependent u) : Rearranged ss (before ++ after) where
  perm := (h.perm.trans List.perm_middle).cons_inv
  declarations name := filter_eq_of_split (h.declarations name) fun hs u hu hname =>
    hbefore u hu ⟨name, .inl ⟨hs, hname⟩⟩
  primaryKeys name := filter_eq_of_split (h.primaryKeys name) fun hs u hu hname =>
    hbefore u hu ⟨name, .inr ⟨hs, hname⟩⟩

/-- Rearranged statements are reordered. -/
theorem reordered (h : Rearranged ss us) : Reordered ss us := by
  induction ss generalizing us with
  | nil =>
    rw [List.nil_perm.1 h.perm]
    exact .nil
  | cons s ss ih =>
    obtain ⟨before, after, rfl, hbefore⟩ := h.exists_split
    have hrest := ih (h.tail hbefore)
    exact (hrest.cons s).trans (.move hbefore after)

end Rearranged

end Sql.Statement

open Sql.Statement

/-- Whether two registries have the same tables under the same names, in whatever order. -/
def SameTables (tables tables' : Registry Table) : Prop :=
  ∀ name, tables.get? name = tables'.get? name

/-- Putting one table into registries with the same tables keeps them so. -/
theorem SameTables.insert {tables tables' : Registry Table} (h : SameTables tables tables')
    (name : String) (table : Table) :
    SameTables (tables.insert name table) (tables'.insert name table) := by
  intro other
  rw [Registry.get?_insert, Registry.get?_insert, h]

/-- Tables under different names can be put in either order. -/
theorem sameTables_insert_comm {name name' : String} (h : name ≠ name') (tables : Registry Table)
    (table table' : Table) :
    SameTables ((tables.insert name table).insert name' table')
      ((tables.insert name' table').insert name table) := by
  intro other
  simp only [Registry.get?_insert]
  split
  · next hother => rw [if_neg fun e => h (e.symm.trans hother)]
  · rfl

/-- Registries with the same tables contain the same names. -/
theorem SameTables.contains_eq {tables tables' : Registry Table} (h : SameTables tables tables')
    (name : String) : tables.contains name = tables'.contains name := by
  rw [Bool.eq_iff_iff, Registry.contains_iff, Registry.contains_iff, ← Registry.isSome_get?,
    ← Registry.isSome_get?, h]

namespace Schema

/-! ## Passes -/

/-- A pass over statements: each changes the tables and gives rise to warnings, both in view of the
tables that there are when it comes. -/
def pass (change : Registry Table → Statement → Registry Table)
    (warn : Registry Table → Statement → List Warning) :
    Registry Table → List Statement → Registry Table × List Warning
  | tables, [] => (tables, [])
  | tables, s :: ss =>
    let more := pass change warn (change tables s) ss
    (more.1, warn tables s ++ more.2)

/-- A pass that sees of the tables only what they are, and in which statements that do not depend on
each other leave each other alone. -/
structure Orderly (change : Registry Table → Statement → Registry Table)
    (warn : Registry Table → Statement → List Warning) : Prop where
  change_same : ∀ {tables tables'} s, SameTables tables tables' →
    SameTables (change tables s) (change tables' s)
  warn_same : ∀ {tables tables'} s, SameTables tables tables' → warn tables s = warn tables' s
  change_comm : ∀ {s u} tables, ¬ s.Dependent u →
    SameTables (change (change tables s) u) (change (change tables u) s)
  warn_change : ∀ {s u} tables, ¬ s.Dependent u → warn (change tables s) u = warn tables u

section Pass

variable {change : Registry Table → Statement → Registry Table}
  {warn : Registry Table → Statement → List Warning} {tables tables' : Registry Table}

/-- An orderly pass over the same tables in another order gives the same tables and warnings. -/
theorem pass_same (h : Orderly change warn) (hsame : SameTables tables tables')
    (ss : List Statement) :
    SameTables (pass change warn tables ss).1 (pass change warn tables' ss).1 ∧
      (pass change warn tables ss).2 = (pass change warn tables' ss).2 := by
  induction ss generalizing tables tables' with
  | nil => exact ⟨hsame, rfl⟩
  | cons s ss ih =>
    obtain ⟨htables, hwarnings⟩ := ih (h.change_same s hsame)
    refine ⟨htables, ?_⟩
    rw [pass, pass, h.warn_same s hsame, hwarnings]

/-- Over statements in another order a pass comes to the same tables, and to the same warnings in
some order. -/
theorem pass_reordered (h : Orderly change warn) {ss us : List Statement} (hss : Reordered ss us)
    (hsame : SameTables tables tables') :
    SameTables (pass change warn tables ss).1 (pass change warn tables' us).1 ∧
      (pass change warn tables ss).2.Perm (pass change warn tables' us).2 := by
  induction hss generalizing tables tables' with
  | nil => exact ⟨hsame, .nil⟩
  | cons s _ ih =>
    obtain ⟨htables, hwarnings⟩ := ih (h.change_same s hsame)
    refine ⟨htables, ?_⟩
    rw [pass, pass, h.warn_same s hsame]
    exact hwarnings.append_left _
  | @swap s u hindependent ss =>
    have hboth : SameTables (change (change tables s) u) (change (change tables' u) s) :=
      fun name => (h.change_comm tables hindependent name).trans
        (h.change_same s (h.change_same u hsame) name)
    obtain ⟨htables, hwarnings⟩ := pass_same h hboth ss
    refine ⟨htables, ?_⟩
    have hsecond : warn (change tables s) u = warn tables' u :=
      (h.warn_change tables hindependent).trans (h.warn_same u hsame)
    have hfirst : warn tables s = warn (change tables' u) s :=
      (h.warn_same s hsame).trans (h.warn_change tables' fun hd => hindependent hd.symm).symm
    simp only [pass, hfirst, hsecond, hwarnings, ← List.append_assoc]
    exact List.perm_append_comm.append_right _
  | trans _ _ ih ih' =>
    obtain ⟨htables, hwarnings⟩ := ih (fun _ => rfl)
    obtain ⟨htables', hwarnings'⟩ := ih' hsame
    exact ⟨fun name => (htables name).trans (htables' name), hwarnings.trans hwarnings'⟩

end Pass

/-! ## The passes of a schema -/

/-- Puts in the table that a statement declares. -/
def putTable (tables : Registry Table) : Statement → Registry Table
  | .createTable table _ => tables.insert table.qualifiedName table
  | .addPrimaryKey .. => tables
  | .addForeignKey .. => tables

/-- The warning that a statement declares a table once more. -/
def redeclarations (tables : Registry Table) : Statement → List Warning
  | .createTable table line =>
    if tables.contains table.qualifiedName then [redeclared table.qualifiedName line] else []
  | .addPrimaryKey .. => []
  | .addForeignKey .. => []

/-- Gives a table the primary key that a statement declares. -/
def putPrimaryKey (tables : Registry Table) : Statement → Registry Table
  | .createTable .. => tables
  | .addPrimaryKey name columns _ =>
    match tables.get? name with
    | some table => tables.insert name (withPrimaryKey table columns)
    | none => tables
  | .addForeignKey .. => tables

/-- The warnings about a primary key that a statement declares. -/
def primaryKeyWarnings (tables : Registry Table) : Statement → List Warning
  | .createTable .. => []
  | .addPrimaryKey name columns line =>
    match tables.get? name with
    | some table =>
      (columns.filter fun column => !table.hasColumn column).map
        (primaryKeyColumnMissing · name line)
    | none => [primaryKeyTableMissing name line]
  | .addForeignKey .. => []

/-- Declaring the tables is a pass over the statements. -/
theorem declareTables_eq_pass (tables : Registry Table) (ss : List Statement) :
    declareTables tables ss = pass putTable redeclarations tables ss := by
  induction ss generalizing tables with
  | nil => rfl
  | cons s ss ih =>
    cases s with
    | createTable table line =>
      rw [declareTables, ih, pass, redeclarations]
      split <;> rfl
    | addPrimaryKey name columns line => exact ih tables
    | addForeignKey clause line => exact ih tables

/-- Giving the tables their primary keys is a pass over the statements. -/
theorem declarePrimaryKeys_eq_pass (tables : Registry Table) (ss : List Statement) :
    declarePrimaryKeys tables ss = pass putPrimaryKey primaryKeyWarnings tables ss := by
  induction ss generalizing tables with
  | nil => rfl
  | cons s ss ih =>
    cases s with
    | createTable table line => exact ih tables
    | addPrimaryKey name columns line =>
      rw [declarePrimaryKeys, pass, putPrimaryKey, primaryKeyWarnings]
      cases tables.get? name with
      | none => simp only [ih, List.singleton_append]
      | some table => simp only [ih]
    | addForeignKey clause line => exact ih tables

/-- The declarations of two tables leave each other alone. -/
theorem orderly_putTable : Orderly putTable redeclarations where
  change_same s hsame := by
    cases s with
    | createTable table line => exact hsame.insert _ _
    | addPrimaryKey name columns line => exact hsame
    | addForeignKey clause line => exact hsame
  warn_same s hsame := by
    cases s with
    | createTable table line => rw [redeclarations, redeclarations, hsame.contains_eq]
    | addPrimaryKey name columns line => rfl
    | addForeignKey clause line => rfl
  change_comm := by
    rintro (⟨table, line⟩ | _ | _) (⟨table', line'⟩ | _ | _) tables hindependent
    case createTable.createTable =>
      have hne : table.qualifiedName ≠ table'.qualifiedName := fun e =>
        hindependent ⟨table.qualifiedName, .inl ⟨decide_eq_true rfl, decide_eq_true e.symm⟩⟩
      exact sameTables_insert_comm hne tables table table'
    all_goals exact fun _ => rfl
  warn_change := by
    rintro (⟨table, line⟩ | _ | _) (⟨table', line'⟩ | _ | _) tables hindependent
    case createTable.createTable =>
      have hne : table'.qualifiedName ≠ table.qualifiedName := fun e =>
        hindependent ⟨table.qualifiedName, .inl ⟨decide_eq_true rfl, decide_eq_true e⟩⟩
      have hcontains : (tables.insert table.qualifiedName table).contains table'.qualifiedName
          = tables.contains table'.qualifiedName := by
        rw [Bool.eq_iff_iff, Registry.contains_iff, Registry.contains_iff, Registry.mem_keys_insert,
          or_iff_right hne]
      rw [putTable, redeclarations, redeclarations, hcontains]
    all_goals rfl

/-- A primary key goes to its table, if there is one. -/
theorem putPrimaryKey_addPrimaryKey (tables : Registry Table) (name : String)
    (columns : List String) (line : Nat) :
    putPrimaryKey tables (.addPrimaryKey name columns line)
      = match tables.get? name with
        | some table => tables.insert name (withPrimaryKey table columns)
        | none => tables := rfl

/-- A primary key leaves the tables of other names. -/
theorem get?_putPrimaryKey_of_ne {name name' : String} (h : name' ≠ name) (tables : Registry Table)
    (columns : List String) (line : Nat) :
    (putPrimaryKey tables (.addPrimaryKey name columns line)).get? name' = tables.get? name' := by
  rw [putPrimaryKey_addPrimaryKey]
  split
  · exact Registry.get?_insert_of_ne h tables _
  · rfl

/-- The primary keys of two tables leave each other alone. -/
theorem orderly_putPrimaryKey : Orderly putPrimaryKey primaryKeyWarnings where
  change_same s hsame := by
    cases s with
    | createTable table line => exact hsame
    | addPrimaryKey name columns line =>
      rw [putPrimaryKey_addPrimaryKey, putPrimaryKey_addPrimaryKey, hsame]
      split
      · exact hsame.insert _ _
      · exact hsame
    | addForeignKey clause line => exact hsame
  warn_same s hsame := by
    cases s with
    | createTable table line => rfl
    | addPrimaryKey name columns line => rw [primaryKeyWarnings, primaryKeyWarnings, hsame]
    | addForeignKey clause line => rfl
  change_comm := by
    rintro (_ | ⟨name, columns, line⟩ | _) (_ | ⟨name', columns', line'⟩ | _) tables hindependent
    case addPrimaryKey.addPrimaryKey =>
      have hne : name ≠ name' := fun e =>
        hindependent ⟨name, .inr ⟨decide_eq_true rfl, decide_eq_true e.symm⟩⟩
      have hsecond := get?_putPrimaryKey_of_ne hne.symm tables columns line
      have hfirst := get?_putPrimaryKey_of_ne hne tables columns' line'
      simp only [putPrimaryKey_addPrimaryKey (putPrimaryKey _ _), hsecond, hfirst]
      simp only [putPrimaryKey_addPrimaryKey]
      cases tables.get? name with
      | none => exact fun _ => rfl
      | some table =>
        cases tables.get? name' with
        | none => exact fun _ => rfl
        | some table' => exact sameTables_insert_comm hne tables _ _
    all_goals exact fun _ => rfl
  warn_change := by
    rintro (_ | ⟨name, columns, line⟩ | _) (_ | ⟨name', columns', line'⟩ | _) tables hindependent
    case addPrimaryKey.addPrimaryKey =>
      have hne : name' ≠ name := fun e =>
        hindependent ⟨name, .inr ⟨decide_eq_true rfl, decide_eq_true e⟩⟩
      rw [primaryKeyWarnings, get?_putPrimaryKey_of_ne hne, primaryKeyWarnings]
    all_goals rfl

/-- The references of a foreign key that a statement declares. -/
def references (tables : Registry Table) : Statement → List ForeignKey
  | .createTable .. => []
  | .addPrimaryKey .. => []
  | .addForeignKey clause _ =>
    match clause.resolve tables with
    | .ok references => references
    | .error _ => []

/-- The warning about a foreign key that a statement declares. -/
def referenceWarnings (tables : Registry Table) : Statement → List Warning
  | .createTable .. => []
  | .addPrimaryKey .. => []
  | .addForeignKey clause line =>
    match clause.resolve tables with
    | .ok _ => []
    | .error cause => [⟨.resolution, cause.message, some line⟩]

/-- Each foreign key stands for references, or for a warning, by itself. -/
theorem declareForeignKeys_eq_flatMap (tables : Registry Table) (ss : List Statement) :
    declareForeignKeys tables ss = (ss.flatMap (references tables),
      ss.flatMap (referenceWarnings tables)) := by
  induction ss with
  | nil => rfl
  | cons s ss ih =>
    rw [List.flatMap_cons, List.flatMap_cons]
    cases s with
    | createTable table line => exact ih
    | addPrimaryKey name columns line => exact ih
    | addForeignKey clause line =>
      rw [declareForeignKeys, ih, references, referenceWarnings]
      cases clause.resolve tables with
      | ok references => rfl
      | error cause => rfl

/-- A clause is resolved by looking up its two tables. -/
theorem resolve_same {tables tables' : Registry Table} (h : SameTables tables tables')
    (clause : ForeignKeyClause) : clause.resolve tables = clause.resolve tables' := by
  rw [ForeignKeyClause.resolve, ForeignKeyClause.resolve, h, h]

/-- Foreign keys are resolved in the tables alike, whatever the order of the tables. -/
theorem declareForeignKeys_same {tables tables' : Registry Table} (h : SameTables tables tables')
    (ss : List Statement) : declareForeignKeys tables ss = declareForeignKeys tables' ss := by
  have hreferences : references tables = references tables' := by
    funext s
    cases s <;> simp only [references, resolve_same h]
  have hwarnings : referenceWarnings tables = referenceWarnings tables' := by
    funext s
    cases s <;> simp only [referenceWarnings, resolve_same h]
  rw [declareForeignKeys_eq_flatMap, declareForeignKeys_eq_flatMap, hreferences, hwarnings]

/-- **The order of declarations does not matter**, but for the order in which one table is declared
several times and the order in which one table is given several primary keys. Declarations that are
rearranged otherwise have the same tables under the same names, with the same columns and primary
keys, and the same foreign keys and warnings in some order. -/
theorem ofStatements_rearranged {ss us : List Statement} (h : Rearranged ss us) :
    (∀ name, (ofStatements ss).1.tables.get? name = (ofStatements us).1.tables.get? name) ∧
      (ofStatements ss).1.foreignKeys.Perm (ofStatements us).1.foreignKeys ∧
      (ofStatements ss).2.Perm (ofStatements us).2 := by
  obtain ⟨hdeclared, hredeclared⟩ :=
    pass_reordered orderly_putTable h.reordered (fun _ => rfl : SameTables ∅ ∅)
  rw [← declareTables_eq_pass, ← declareTables_eq_pass] at hdeclared hredeclared
  obtain ⟨hkeyed, hunknown⟩ := pass_reordered orderly_putPrimaryKey h.reordered hdeclared
  rw [← declarePrimaryKeys_eq_pass, ← declarePrimaryKeys_eq_pass] at hkeyed hunknown
  have hreferring := declareForeignKeys_same hkeyed ss
  simp only [ofStatements, hreferring]
  rw [declareForeignKeys_eq_flatMap, declareForeignKeys_eq_flatMap]
  exact ⟨hkeyed, h.perm.flatMap_right _,
    (hredeclared.append hunknown).append (h.perm.flatMap_right _)⟩

/-! A table that is declared twice, two primary keys of one table, a foreign key that refers to the
second of them, and keys of a table that is not declared. -/

/-- The declarations in one order. -/
def scatteredStatements : List Statement :=
  [.addForeignKey ⟨"a.x", ["p"], "b.y", []⟩ 1, .addPrimaryKey "b.y" ["q", "r"] 2,
    .createTable ⟨"a", "x", [⟨"n", "int", true, false⟩], []⟩ 3,
    .createTable ⟨"b", "y", [⟨"q", "int", true, false⟩], []⟩ 4, .addPrimaryKey "c.z" ["q"] 5,
    .createTable ⟨"a", "x", [⟨"p", "int", false, true⟩], []⟩ 6, .addPrimaryKey "b.y" ["q"] 7,
    .addForeignKey ⟨"c.z", ["q"], "b.y", ["q"]⟩ 8]

/-- The declarations in another order. -/
def gatheredStatements : List Statement :=
  [.createTable ⟨"b", "y", [⟨"q", "int", true, false⟩], []⟩ 4, .addPrimaryKey "c.z" ["q"] 5,
    .addForeignKey ⟨"c.z", ["q"], "b.y", ["q"]⟩ 8, .addPrimaryKey "b.y" ["q", "r"] 2,
    .addPrimaryKey "b.y" ["q"] 7, .createTable ⟨"a", "x", [⟨"n", "int", true, false⟩], []⟩ 3,
    .createTable ⟨"a", "x", [⟨"p", "int", false, true⟩], []⟩ 6,
    .addForeignKey ⟨"a.x", ["p"], "b.y", []⟩ 1]

/-- The statements are a rearrangement of the others, and give the same tables, foreign keys and
warnings, with four warnings to put in order. -/
theorem ofStatements_gatheredStatements :
    Rearranged scatteredStatements gatheredStatements ∧
      (∀ name, (ofStatements scatteredStatements).1.tables.get? name
        = (ofStatements gatheredStatements).1.tables.get? name) ∧
      (ofStatements scatteredStatements).1.foreignKeys = [⟨"a.x", "p", "b.y", "q"⟩] ∧
      (ofStatements scatteredStatements).2.Perm (ofStatements gatheredStatements).2 ∧
      (ofStatements scatteredStatements).2.length = 4 := by
  have h : Rearranged scatteredStatements gatheredStatements :=
    { perm := by decide
      declarations := fun name => by
        by_cases hx : "a.x" = name
        · subst hx
          decide
        by_cases hy : "b.y" = name
        · subst hy
          decide
        simp [scatteredStatements, gatheredStatements, isDeclarationOf, Table.qualifiedName,
          qualify, hx, hy]
      primaryKeys := fun name => by
        by_cases hy : "b.y" = name
        · subst hy
          decide
        by_cases hz : "c.z" = name
        · subst hz
          decide
        simp [scatteredStatements, gatheredStatements, isPrimaryKeyOf, hy, hz] }
  obtain ⟨htables, -, hwarnings⟩ := ofStatements_rearranged h
  exact ⟨h, htables, by decide +kernel, hwarnings, by decide +kernel⟩

end Schema

end SchemaCanvas
