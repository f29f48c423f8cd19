import SchemaCanvas.Proofs.Registry
import SchemaCanvas.Proofs.Schema.LetterCase
import SchemaCanvas.Proofs.Sql.Body
import SchemaCanvas.Proofs.Sql.Semicolon

/-!
# Tables of column definitions

A table is defined by a statement that lists its columns with their modifiers (`TableDefinition`).
The statement stands or falls with the body of the table: it gives a schema with the columns that
are read from the body (`Schema.ofTokens_of_body`), or a warning (`Schema.ofTokens_of_fails`). So a
text that spells the definition, in any letter case and layout, gives the columns that are defined
exactly when each definition tells what its modifiers say (`Schema.ofTokens_definition`).
-/

namespace SchemaCanvas

namespace Sql

open SchemaCanvas.Sql.Parser SchemaCanvas.Sql.Statement

/-! ## Definitions -/

/-- A table as it is defined: a name with its schema's, maybe guarded by IF NOT EXISTS, and column
definitions. There may be options after the body, and the semicolon may be missing. -/
structure TableDefinition where
  guarded : Bool
  schema : Token
  schemaName : String
  table : Token
  tableName : String
  columns : List ColumnDefinition
  options : List Token
  terminated : Bool
  identifier_schema : schema.identifier? = some schemaName
  identifier_table : table.identifier? = some tableName
  plain_schemaName : '.' ∉ schemaName.toList
  /-- The word IF in place of a schema would start IF NOT EXISTS. -/
  if_schema : guarded = false → schema.isKeyword "IF" = false
  options_end : ∀ t ∈ options, t.isMark ";" = false

namespace TableDefinition

variable (d : TableDefinition)

/-- The tokens after the body of the table. -/
def ending : List Token :=
  d.options ++ if d.terminated then [mark ";"] else []

/-- The tokens before the body of the table, from after the words CREATE TABLE on. -/
def opening : List Token :=
  (if d.guarded then ["IF", "NOT", "EXISTS"].map bareWord else []) ++
    [d.schema, mark ".", d.table, mark "("]

/-- The tokens of the body and after it. -/
def body : List Token :=
  bodyTokens d.columns ++ mark ")" :: d.ending

/-- The tokens of the statement. -/
def tokens : List Token :=
  bareWord "CREATE" :: bareWord "TABLE" :: (d.opening ++ d.body)

/-- The table with its name, and with columns. -/
def withColumns (columns : List Column) : Table :=
  ⟨d.schemaName, d.tableName, columns, []⟩

/-- The schema that holds the table with columns, and nothing else. -/
def schemaWith (columns : List Column) : Schema :=
  ⟨.ofList [((d.withColumns columns).qualifiedName, d.withColumns columns)], []⟩

variable {d}

/-- Nothing is left behind the statement. -/
theorem skipStatement_ending : skipStatement d.ending = [] := by
  have hend := d.options_end
  rw [ending]
  generalize d.options = options at hend
  induction options with
  | nil => cases d.terminated <;> rfl
  | cons t ts ih =>
    obtain ⟨ht, hts⟩ := List.forall_mem_cons.1 hend
    rw [List.cons_append, skipStatement, if_neg (by simp [ht]), ih hts]

/-- The schema tells the columns of its table. -/
theorem schemaWith_injective {cs cs' : List Column} (h : d.schemaWith cs = d.schemaWith cs') :
    cs = cs' := by
  have hitems : ∀ cs, (d.schemaWith cs).tables.items
      = [((d.withColumns cs).qualifiedName, d.withColumns cs)] := fun cs =>
    Registry.items_ofList (List.nodup_singleton _)
  have htables := congrArg (fun s => s.tables.items) h
  simp only [hitems] at htables
  exact congrArg Table.columns (Prod.mk.inj (List.cons.inj htables).1).2

/-! ## Statements -/

/-- The statement is read as its body is, with the name of the table put before. -/
theorem tableDeclaration_opening (line : Nat) (ts : List Token) :
    tableDeclaration line (d.opening ++ ts)
      = (tableBody (qualify d.schemaName d.tableName) >>= fun columns =>
          modify skipStatement >>= fun _ =>
            Pure.pure (.createTable (d.withColumns columns) line)) ts := by
  have hexists : ifNotExists (d.opening ++ ts)
      = .ok () (d.schema :: mark "." :: d.table :: mark "(" :: ts) := by
    unfold ifNotExists
    rw [opening]
    cases hguarded : d.guarded with
    | true => rfl
    | false =>
      rw [if_neg (by decide), List.nil_append, List.cons_append,
        bind_of_ok (acceptKeyword_of_false (d.if_schema hguarded) _)]
      rfl
  have hname := qualifiedName_of_names d.identifier_schema d.identifier_table d.plain_schemaName
    (show (mark "(").isMark "." = false by decide) ts
  unfold tableDeclaration
  rw [bind_of_ok hexists, bind_of_ok hname, bind_of_ok (requireMark_mark "(" _)]
  rfl

/-- The statement declares its table with the columns of the body. -/
theorem statement_tokens :
    statement d.tokens
      = (tableBody (qualify d.schemaName d.tableName) >>= fun columns =>
          modify skipStatement >>= fun _ =>
            Pure.pure [.createTable (d.withColumns columns) 1]) d.body := by
  have hline : (bareWord "CREATE").place.line = 1 := rfl
  rw [tokens, statement_cons, if_pos (by decide), if_pos (by decide), hline]
  cases hbody : tableBody (qualify d.schemaName d.tableName) d.body with
  | ok columns rest =>
    rw [bind_of_ok ((tableDeclaration_opening _ _).trans (bind_of_ok hbody)), bind_of_ok hbody]
    rfl
  | error cause rest =>
    rw [bind_of_error ((tableDeclaration_opening _ _).trans (bind_of_error hbody)),
      bind_of_error hbody]

end TableDefinition

end Sql

open Sql

namespace Schema

open SchemaCanvas.Sql.Statement

variable {d : TableDefinition}

/-- A table whose body is read is the only one of the schema. -/
theorem ofTokens_of_body {columns : List Column}
    (h : tableBody (qualify d.schemaName d.tableName) d.body = .ok columns d.ending) :
    ofTokens d.tokens = (d.schemaWith columns, []) := by
  have hstatement : statement d.tokens = .ok [.createTable (d.withColumns columns) 1] [] := by
    rw [TableDefinition.statement_tokens, bind_of_ok h]
    exact congrArg (EStateM.Result.ok _) TableDefinition.skipStatement_ending
  have hround : Statement.round (bareWord "CREATE") (bareWord "TABLE" :: (d.opening ++ d.body))
      = (.inl [.createTable (d.withColumns columns) 1], []) := by
    rw [Statement.round, ← TableDefinition.tokens, hstatement]
  have hcollect : collect d.tokens = ([.createTable (d.withColumns columns) 1], []) := by
    rw [TableDefinition.tokens, collect_of_round hround, collect]
    rfl
  rw [ofTokens, hcollect]
  rfl

/-- A table whose body cannot be read is warned about. -/
theorem ofTokens_of_fails
    (h : Fails (tableBody (qualify d.schemaName d.tableName) d.body)) :
    (ofTokens d.tokens).2 ≠ [] := by
  obtain ⟨cause, rest, h⟩ := h
  have hround : Statement.round (bareWord "CREATE") (bareWord "TABLE" :: (d.opening ++ d.body))
      = (.inr ⟨.syntactic, cause.message, some 1⟩, skipStatement rest) := by
    rw [Statement.round, ← TableDefinition.tokens, TableDefinition.statement_tokens,
      bind_of_error h]
    rfl
  rw [ofTokens, TableDefinition.tokens, collect_of_round hround]
  exact List.cons_ne_nil _ _

/-- The tokens of a table definition give the columns that are defined, without warnings, exactly
when each column definition tells what its modifiers say. -/
theorem ofTokens_definition (d : TableDefinition) :
    ofTokens d.tokens = (d.schemaWith (d.columns.map ColumnDefinition.column), []) ↔
      ∀ c ∈ d.columns, c.Faithful := by
  rcases tableBody_definitions (qualify d.schemaName d.tableName) d.columns d.ending with
    ⟨hwhole, hbody⟩ | ⟨⟨c, hc, hbroken⟩, hbody⟩
  · rw [ofTokens_of_body hbody]
    constructor
    · intro h c hc
      have hcolumns := TableDefinition.schemaWith_injective (Prod.mk.inj h).1
      exact ⟨hwhole c hc, List.map_inj_left.1 hcolumns c hc⟩
    · intro h
      rw [List.map_congr_left fun c hc => (h c hc).2]
  · -- A column definition that falls apart fails, or it shows in the number of columns.
    refine iff_of_false (fun h => ?_) fun h => hbroken (h c hc).1
    rcases hbody with hfails | ⟨columns, hlength, hbody⟩
    · exact ofTokens_of_fails hfails (congrArg Prod.snd h)
    · rw [before, List.append_nil] at hbody
      rw [ofTokens_of_body hbody] at h
      have hcolumns := TableDefinition.schemaWith_injective (Prod.mk.inj h).1
      rw [hcolumns, List.length_map] at hlength
      exact Nat.lt_irrefl _ hlength

/-- A text that spells a table definition gives the columns that are defined, without warnings,
exactly when each column definition tells what its modifiers say. A definition without a comma
outside parentheses does so when DEFAULT is mentioned elsewhere only beside a default, and NOT NULL
in the brackets of a default only beside NOT NULL. -/
theorem ofText_definition (d : TableDefinition) (text : String)
    (h : List.Forall₂ Token.SameLetters (Script.ofText text).tokens d.tokens) :
    (ofText text = (d.schemaWith (d.columns.map ColumnDefinition.column), []) ↔
      ∀ c ∈ d.columns, c.Faithful) ∧
    ∀ c ∈ d.columns, (∀ t ∈ c.modifiers.flatMap fun m => m.tree.outer, t.isMark "," = false) →
      (c.Faithful ↔
        (c.modifiers.any Modifier.mentionsDefault = true →
          c.modifiers.any Modifier.isDefault = true) ∧
        (c.modifiers.any Modifier.bracketsNotNull = true →
          c.modifiers.any Modifier.isNotNull = true)) := by
  refine ⟨?_, fun c _ hcomma => ColumnDefinition.faithful_iff hcomma⟩
  obtain ⟨hschema, hkinds⟩ := ofTokens_sameLetters h
  have hwarnings : (ofText text).2 = [] ↔ (ofTokens d.tokens).2 = [] := by
    rw [← List.map_eq_nil_iff (f := Warning.kind), ofText, hkinds, List.map_eq_nil_iff]
  rw [← ofTokens_definition, Prod.ext_iff, Prod.ext_iff, hwarnings, ofText, hschema]

/-! An identity that is generated by default mentions DEFAULT without being a default. -/

/-- A column of numbers that are given out unless they are set. -/
def identityColumn : ColumnDefinition where
  name := "id"
  type := "int"
  modifiers := [.identity false]
  upper_type := by decide
  allowed_modifiers := by decide

/-- A table with nothing but this column. -/
def identityTable : TableDefinition where
  guarded := false
  schema := bareWord "s"
  schemaName := "s"
  table := bareWord "t"
  tableName := "t"
  columns := [identityColumn]
  options := []
  terminated := true
  identifier_schema := by decide
  identifier_table := by decide
  plain_schemaName := by decide
  if_schema := by decide
  options_end := nofun

/-- The column has a default for the reading, although it is only an identity that is generated by
default. -/
theorem ofText_identityTable :
    let text := "CREATE TABLE s.t (\"id\" int GENERATED BY DEFAULT AS IDENTITY);"
    List.Forall₂ Token.SameLetters (Script.ofText text).tokens identityTable.tokens ∧
      identityTable.columns.map ColumnDefinition.column = [⟨"id", "int", true, false⟩] ∧
      ofText text ≠ (identityTable.schemaWith [⟨"id", "int", true, false⟩], []) ∧
      ofText text = (identityTable.schemaWith [⟨"id", "int", true, true⟩], []) := by
  intro text
  have h : List.Forall₂ Token.SameLetters (Script.ofText text).tokens identityTable.tokens := by
    decide +kernel
  have hunfaithful : ¬ ∀ c ∈ identityTable.columns, c.Faithful := by decide +kernel
  have hdefined := (ofText_definition identityTable text h).1
  exact ⟨h, by decide, fun he => hunfaithful (hdefined.1 he), by decide +kernel⟩

end Schema

end SchemaCanvas
