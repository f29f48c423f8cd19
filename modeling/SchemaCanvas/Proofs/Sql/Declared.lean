import SchemaCanvas.Proofs.Sequence
import SchemaCanvas.Sql.Statement.Parser

/-!
# What the statements of a script declare

A property that the declarations of tables and the declarations of keys have where they are read,
all statements of a script have (`Statement.forall_collect`). So whatever the tokens are, no table
is declared in a schema whose name has a point in it (`Statement.plain_collect`): a qualified name
with such a schema is refused where it is read. And no table is declared with a primary key
(`Statement.keyless_collect`): keys come by statements of their own.
-/

namespace SchemaCanvas.Sql

open SchemaCanvas.Sql.Parser

/-- A condition holds when its check succeeds. -/
theorem Parser.of_ensure {condition : Bool} {cause : SyntaxError} {ts rest : List Token} {u : Unit}
    (h : ensure condition cause ts = .ok u rest) : condition = true := by
  unfold ensure at h
  split at h
  · assumption
  · cases h

namespace Statement

/-- Whether the statement declares no table, or one in a schema without a point in its name. -/
def Plain : Statement → Prop
  | .createTable table _ => '.' ∉ table.schema.toList
  | .addPrimaryKey .. => True
  | .addForeignKey .. => True

variable {ts rest : List Token} {line : Nat}

/-- The schema of a qualified name that is read has no point in it. -/
theorem not_mem_of_qualifiedName {name : String × String}
    (h : qualifiedName ts = .ok name rest) : '.' ∉ name.1.toList := by
  obtain ⟨schema, _, -, h⟩ := bind_eq_ok.1 h
  obtain ⟨pointed, _, -, h⟩ := bind_eq_ok.1 h
  obtain ⟨_, _, -, h⟩ := bind_eq_ok.1 h
  obtain ⟨table, _, -, h⟩ := bind_eq_ok.1 h
  obtain ⟨again, _, -, h⟩ := bind_eq_ok.1 h
  obtain ⟨_, _, -, h⟩ := bind_eq_ok.1 h
  obtain ⟨_, _, hpoint, h⟩ := bind_eq_ok.1 h
  cases h
  exact of_decide_eq_true (of_ensure hpoint)

/-- A declaration of a table names it by a qualified name, and gives it columns and no primary
key. -/
theorem exists_of_tableDeclaration {s : Statement} (h : tableDeclaration line ts = .ok s rest) :
    ∃ more left name columns, qualifiedName more = .ok name left ∧
      s = .createTable ⟨name.1, name.2, columns, []⟩ line := by
  obtain ⟨_, _, -, h⟩ := bind_eq_ok.1 h
  obtain ⟨name, _, hname, h⟩ := bind_eq_ok.1 h
  obtain ⟨_, _, -, h⟩ := bind_eq_ok.1 h
  obtain ⟨columns, _, -, h⟩ := bind_eq_ok.1 h
  obtain ⟨_, _, -, h⟩ := bind_eq_ok.1 h
  cases h
  exact ⟨_, _, name, columns, hname, rfl⟩

/-- A declared table is in a schema without a point in its name. -/
theorem plain_tableDeclaration {s : Statement} (h : tableDeclaration line ts = .ok s rest) :
    s.Plain := by
  obtain ⟨_, _, name, columns, hname, rfl⟩ := exists_of_tableDeclaration h
  exact not_mem_of_qualifiedName hname

/-- Whether the statement declares no table, or one without a primary key. -/
def Keyless : Statement → Prop
  | .createTable table _ => table.primaryKey = []
  | .addPrimaryKey .. => True
  | .addForeignKey .. => True

/-- A declared table has no primary key. -/
theorem keyless_tableDeclaration {s : Statement} (h : tableDeclaration line ts = .ok s rest) :
    s.Keyless := by
  obtain ⟨_, _, name, columns, -, rfl⟩ := exists_of_tableDeclaration h
  rfl

/-! ## Properties of all statements -/

section Forall

variable {P : Statement → Prop}
  (htable : ∀ {line ts rest s}, tableDeclaration line ts = .ok s rest → P s)
  (hprimary : ∀ table columns line, P (.addPrimaryKey table columns line))
  (hforeign : ∀ clause line, P (.addForeignKey clause line))

include hprimary hforeign

/-- A key that an action adds has what all keys have in common. -/
theorem of_addedKey {table : String} {s : Statement}
    (h : addedKey table line ts = .ok (some s) rest) : P s := by
  obtain ⟨_, _, -, h⟩ := bind_eq_ok.1 h
  obtain ⟨primary, _, -, h⟩ := bind_eq_ok.1 h
  split at h
  · obtain ⟨_, _, -, h⟩ := bind_eq_ok.1 h
    obtain ⟨columns, _, -, h⟩ := bind_eq_ok.1 h
    cases h
    exact hprimary table columns line
  · obtain ⟨foreign, _, -, h⟩ := bind_eq_ok.1 h
    split at h
    · obtain ⟨_, _, -, h⟩ := bind_eq_ok.1 h
      obtain ⟨clause, _, -, h⟩ := bind_eq_ok.1 h
      cases h
      exact hforeign clause line
    · cases h

/-- What an action on a table declares has what all keys have in common. -/
theorem of_tableAction {table : String} {s : Statement}
    (h : tableAction table line ts = .ok (some s) rest) : P s := by
  obtain ⟨adds, _, -, h⟩ := bind_eq_ok.1 h
  split at h
  · exact of_addedKey hprimary hforeign h
  · cases h

/-- All that the actions on a table declare has what all keys have in common. -/
theorem forall_tableActions {table : String} {ss : List Statement}
    (h : tableActions table line ts = .ok ss rest) : ∀ s ∈ ss, P s := by
  have forall_action : ∀ {ts after : List Token} {action : Option Statement},
      tableAction table line ts = .ok action after → ∀ s ∈ action.toList, P s := by
    intro ts after action h s hs
    rw [Option.mem_toList.1 hs] at h
    exact of_tableAction hprimary hforeign h
  fun_induction tableActions table line ts generalizing ss rest with
  | case1 ts cause left ha => cases h
  | case2 ts action after ha hskip =>
    cases h
    exact forall_action ha
  | case3 ts action after ha t left hskip _ _ more left' hmore ih =>
    cases h
    intro s hs
    rcases List.mem_append.1 hs with hs | hs
    · exact forall_action ha s hs
    · exact ih hmore s hs
  | case4 ts action after ha t left hskip _ _ cause left' hmore ih => cases h
  | case5 ts action after ha t left hskip _ _ =>
    cases h
    exact forall_action ha

/-- All that a change of a table declares has what all keys have in common. -/
theorem forall_tableChange {ss : List Statement} (h : tableChange line ts = .ok ss rest) :
    ∀ s ∈ ss, P s := by
  obtain ⟨_, _, -, h⟩ := bind_eq_ok.1 h
  obtain ⟨_, _, -, h⟩ := bind_eq_ok.1 h
  obtain ⟨name, _, -, h⟩ := bind_eq_ok.1 h
  obtain ⟨statements, _, hactions, h⟩ := bind_eq_ok.1 h
  obtain ⟨_, _, -, h⟩ := bind_eq_ok.1 h
  cases h
  exact forall_tableActions hprimary hforeign hactions

include htable

/-- What a statement declares has what all declarations of tables and of keys have in common. -/
theorem forall_statement {ss : List Statement} (h : statement ts = .ok ss rest) :
    ∀ s ∈ ss, P s := by
  unfold statement at h
  split at h
  · split at h
    · split at h
      · split at h
        · next hdeclaration =>
          cases h
          intro s hs
          rw [List.mem_singleton.1 hs]
          exact htable hdeclaration
        · cases h
      · split at h
        · exact forall_tableChange hprimary hforeign h
        · cases h
          exact nofun
    · cases h
      exact nofun
  · cases h
    exact nofun

/-- What all declarations have in common where they are read, all statements of a script have. -/
theorem forall_collect (ts : List Token) : ∀ s ∈ (collect ts).1, P s := by
  fun_induction collect ts with
  | case1 => exact nofun
  | case2 t ts more statements hround ih =>
    intro s hs
    rcases List.mem_append.1 hs with hs | hs
    · unfold round at hround
      split at hround
      · next h =>
        cases hround
        exact forall_statement htable hprimary hforeign h s hs
      · cases hround
    · exact ih s hs
  | case3 t ts more warning hround ih => exact ih

end Forall

/-- No table of a script is declared in a schema with a point in its name. -/
theorem plain_collect (ts : List Token) : ∀ s ∈ (collect ts).1, s.Plain :=
  forall_collect plain_tableDeclaration (fun _ _ _ => trivial) (fun _ _ => trivial) ts

/-- No table of a script is declared with a primary key. -/
theorem keyless_collect (ts : List Token) : ∀ s ∈ (collect ts).1, s.Keyless :=
  forall_collect keyless_tableDeclaration (fun _ _ _ => trivial) (fun _ _ => trivial) ts

end Statement

end SchemaCanvas.Sql
