import SchemaCanvas.Proofs.Schema.Alike
import SchemaCanvas.Proofs.Sql.Written

/-!
# Statements that are read as they are written

A text declares statements when it is read as these statements, whatever follows it (`Declares`).
Texts that declare something can be put one after another (`Declares.append`, `Declares.join`). The
declarations of a table and of keys each declare one statement (`declares_declaration`,
`declares_primaryKeyDeclaration`, `declares_foreignKeyDeclaration`). The schema of a text is that of
the statements which the text declares (`Declares.ofText_eq`).
-/

namespace SchemaCanvas.Sql

open SchemaCanvas.Sql.Parser SchemaCanvas.Sql.Statement

/-! ## Texts that declare statements -/

/-- The text is read as the statements, and then what follows it is read. -/
def Declares (text : String) (ss : List Statement) : Prop :=
  ∃ tokens, (∀ {cs ts}, Spells cs ts → Spells (text.toList ++ cs) (tokens ++ ts)) ∧
    ∀ ts, collect (tokens ++ ts) = (ss ++ (collect ts).1, (collect ts).2)

namespace Declares

/-- No text declares nothing. -/
theorem empty : Declares "" [] :=
  ⟨[], fun h => h, fun _ => rfl⟩

/-- Texts that declare statements declare them one after another when they are put together. -/
theorem append {text text' : String} {ss ss' : List Statement} (h : Declares text ss)
    (h' : Declares text' ss') : Declares (text ++ text') (ss ++ ss') := by
  obtain ⟨tokens, hspells, hreads⟩ := h
  obtain ⟨tokens', hspells', hreads'⟩ := h'
  refine ⟨tokens ++ tokens', fun {cs ts} hrest => ?_, fun ts => ?_⟩
  · rw [String.toList_append, List.append_assoc, List.append_assoc]
    exact hspells (hspells' hrest)
  · rw [List.append_assoc, hreads, hreads', List.append_assoc]

/-- Any number of texts that declare statements declare them one after another. -/
theorem join {α : Type} {text : α → String} {ss : α → List Statement} {as : List α}
    (h : ∀ a ∈ as, Declares (text a) (ss a)) :
    Declares (String.join (as.map text)) (as.flatMap ss) := by
  induction as with
  | nil => exact empty
  | cons a as ih =>
    have hmore := ih fun b hb => h b (List.mem_cons_of_mem a hb)
    rw [List.map_cons, List.flatMap_cons, String.join_cons]
    exact (h a List.mem_cons_self).append hmore

/-- Tokens that are read as one statement. -/
theorem of_statement {text : String} {ss : List Statement} (t : Token) (tokens : List Token)
    (hspells : ∀ {cs ts}, Spells cs ts → Spells (text.toList ++ cs) (t :: (tokens ++ ts)))
    (hreads : ∀ ts, statement (t :: (tokens ++ ts)) = .ok ss ts) : Declares text ss := by
  refine ⟨t :: tokens, hspells, fun ts => ?_⟩
  have hround : Statement.round t (tokens ++ ts) = (.inl ss, ts) := by
    rw [Statement.round, hreads]
  exact collect_of_round hround

/-- The schema of a text is that of the statements, if there is no warning about them. -/
theorem ofText_eq {text : String} {ss : List Statement} {s : Schema} (h : Declares text ss)
    (hs : Schema.ofStatements ss = (s, [])) : Schema.ofText text = (s, []) := by
  obtain ⟨tokens, hspells, hreads⟩ := h
  have hcontents : (Script.ofText text).tokens.map Token.content = tokens.map Token.content := by
    have hall : Spells text.toList tokens := by simpa using hspells Spells.nil
    rw [Script.contents_ofText]
    exact hall
  have hcollect : collect tokens = (ss, []) := by
    have hnil : collect [] = ([], []) := by rw [collect]
    have hall := hreads []
    rwa [List.append_nil, hnil, List.append_nil] at hall
  have htokens : Schema.ofTokens tokens = (s, []) := by
    rw [Schema.ofTokens, hcollect, hs, List.append_nil]
  obtain ⟨hschema, hwarnings⟩ := Schema.ofTokens_of_contents hcontents
  rw [htokens] at hschema hwarnings
  exact Prod.ext hschema (List.map_eq_nil_iff.1 hwarnings)

end Declares

/-! ## Tables -/

/-- Columns whose types are words with arguments and brackets are read as they are written. -/
theorem exists_bodyTokens {columns : List Column} (h : ∀ c ∈ columns, c.Plain) :
    ∃ tokens, (∀ {cs ts}, Apart cs → Spells cs ts →
        Spells ((", ".intercalate (columns.map Column.written)).toList ++ cs) (tokens ++ ts)) ∧
      ∀ table ts, tableBody table (tokens ++ mark ")" :: ts) = .ok columns ts := by
  induction columns with
  | nil =>
    refine ⟨[], fun _ hrest => hrest, fun table ts => ?_⟩
    rw [List.nil_append, tableBody_cons, if_pos (isMark_mark ")")]
  | cons c columns ih =>
    obtain ⟨type, htype⟩ := h c List.mem_cons_self
    obtain ⟨tokens, hspells, hreads⟩ := ih fun d hd => h d (List.mem_cons_of_mem c hd)
    cases columns with
    | nil =>
      refine ⟨columnTokens c type, fun ha hrest => ?_, fun table ts => ?_⟩
      · simpa using Spells.column htype ha hrest
      · have hclose : tableBody table (mark ")" :: ts) = .ok [] ts := by
          rw [tableBody_cons, if_pos (isMark_mark ")")]
        rw [tableBody_column table htype (.inr rfl), bind_of_ok hclose]
        rfl
    | cons d columns =>
      refine ⟨columnTokens c type ++ mark "," :: tokens, fun ha hrest => ?_, fun table ts => ?_⟩
      · have hmore := Spells.comma (Spells.space (hspells ha hrest))
        have hcolumn := Spells.column htype (apart_cons ',' (by decide) _) hmore
        simpa [String.toList_intercalate, List.intercalate_cons_cons] using hcolumn
      · have hcomma : tableBody table (mark "," :: (tokens ++ mark ")" :: ts))
            = .ok (d :: columns) ts := by
          rw [tableBody_cons, if_neg (by decide), if_pos (isMark_mark ","), hreads]
        rw [List.append_assoc, List.cons_append, tableBody_column table htype (.inl rfl),
          bind_of_ok hcomma]
        rfl

/-- The body of a table and its name are read as a declaration of the table, up to the semicolon. -/
theorem tableDeclaration_written {schema : String} (hplain : '.' ∉ schema.toList) (table : String)
    {body : List Token} {columns : List Column}
    (hbody : ∀ table ts, tableBody table (body ++ mark ")" :: ts) = .ok columns ts) (line : Nat)
    (ts : List Token) :
    tableDeclaration line
        (nameTokens schema table ++ mark "(" :: (body ++ mark ")" :: mark ";" :: ts))
      = .ok (.createTable ⟨schema, table, columns, []⟩ line) ts := by
  have hexists : ∀ ts, ifNotExists (nameTokens schema table ++ ts)
      = .ok () (nameTokens schema table ++ ts) := fun ts => by
    unfold ifNotExists
    rw [nameTokens, List.cons_append, bind_of_ok (acceptKeyword_of_false rfl _)]
    rfl
  have hname := qualifiedName_written hplain table (show (mark "(").isMark "." = false by decide)
  unfold tableDeclaration
  rw [bind_of_ok (hexists _), bind_of_ok (hname _), bind_of_ok (requireMark_mark "(" _),
    bind_of_ok (hbody _ _)]
  rfl

/-- A table is declared without its primary key. -/
theorem declares_declaration {table : Table} (hplain : '.' ∉ table.schema.toList)
    (hcolumns : ∀ c ∈ table.columns, c.Plain) :
    Declares table.declaration [.createTable { table with primaryKey := [] } 1] := by
  obtain ⟨body, hspells, hbody⟩ := exists_bodyTokens hcolumns
  refine .of_statement (bareWord "CREATE") (bareWord "TABLE" ::
    (nameTokens table.schema table.name ++ mark "(" :: (body ++ [mark ")", mark ";"])))
    (fun h => ?_) fun ts => ?_
  · have hend := Spells.mark ")" (by decide) (Spells.semicolon h)
    have hopen := Spells.space (Spells.mark "(" (by decide)
      (hspells (apart_cons ')' (by decide) _) hend))
    have hname := Spells.writtenName table (Spells.apart_space _).head?_ne hopen
    have hcreate := Spells.spaced ["CREATE", "TABLE"] (by decide) hname
    have htext : "CREATE TABLE " = spaced ["CREATE", "TABLE"] := by decide
    unfold Table.declaration
    simpa [htext] using hcreate
  · have hdeclaration := tableDeclaration_written hplain table.name hbody
      (bareWord "CREATE").place.line ts
    simp only [List.cons_append, List.append_assoc, List.nil_append]
    rw [statement_cons, if_pos (by decide), if_pos (by decide), bind_of_ok hdeclaration]
    rfl

/-! ## Keys -/

/-- A key that is added to a table is read, up to the semicolon. -/
theorem tableChange_written {schema : String} (hplain : '.' ∉ schema.toList) (table : String)
    {key : List Token} {s : Statement} {line : Nat} {ts : List Token}
    (hkey : addedKey (qualify schema table) line (key ++ mark ";" :: ts)
      = .ok (some s) (mark ";" :: ts)) :
    tableChange line (nameTokens schema table ++ bareWord "ADD" :: (key ++ mark ";" :: ts))
      = .ok [s] ts := by
  have hexists : ∀ ts, ifExists (nameTokens schema table ++ ts)
      = .ok () (nameTokens schema table ++ ts) := fun ts => by
    unfold ifExists
    rw [nameTokens, List.cons_append, bind_of_ok (acceptKeyword_of_false rfl _)]
    rfl
  have honly : ∀ ts, acceptKeyword "ONLY" (nameTokens schema table ++ ts)
      = .ok false (nameTokens schema table ++ ts) := fun ts => acceptKeyword_of_false rfl _
  have hname := qualifiedName_written hplain table
    (show (bareWord "ADD").isMark "." = false by decide)
  have haction : tableAction (qualify schema table) line
      (bareWord "ADD" :: (key ++ mark ";" :: ts)) = .ok (some s) (mark ";" :: ts) := by
    unfold tableAction
    rw [bind_of_ok (acceptKeyword_bareWord (by decide) _)]
    exact hkey
  have hactions : tableActions (qualify schema table) line
      (bareWord "ADD" :: (key ++ mark ";" :: ts)) = .ok [s] (mark ";" :: ts) := by
    have hskip : skipAction 0 (mark ";" :: ts) = mark ";" :: ts := rfl
    rw [tableActions_eq, bind_of_ok haction, moreActions_of_cons hskip, if_neg (by decide)]
    rfl
  unfold tableChange
  rw [bind_of_ok (hexists _), bind_of_ok (honly _), bind_of_ok (hname _), bind_of_ok hactions,
    bind_of_ok (acceptMark_mark ";" ts)]
  rfl

/-- A statement that adds a key declares what the key is read as. -/
theorem declares_alteration {table : Table} (hplain : '.' ∉ table.schema.toList) {text : String}
    (key : List Token) {s : Statement}
    (hspells : ∀ {cs ts}, Apart cs → Spells cs ts → Spells (text.toList ++ cs) (key ++ ts))
    (hkey : ∀ ts, addedKey table.qualifiedName 1 (key ++ mark ";" :: ts)
      = .ok (some s) (mark ";" :: ts)) :
    Declares (table.alteration text) [s] := by
  refine .of_statement (bareWord "ALTER") (bareWord "TABLE" ::
    (nameTokens table.schema table.name ++ bareWord "ADD" :: (key ++ [mark ";"])))
    (fun h => ?_) fun ts => ?_
  · have hend := hspells (Spells.apart_semicolon _) (Spells.semicolon h)
    have hadd := Spells.spaced ["ADD"] (by decide) hend
    have hname := Spells.writtenName table (Spells.apart_space _).head?_ne
      (Spells.space hadd)
    have halter := Spells.spaced ["ALTER", "TABLE"] (by decide) hname
    have htext : "ALTER TABLE " = spaced ["ALTER", "TABLE"] ∧ " ADD " = " " ++ spaced ["ADD"] := by
      decide
    unfold Table.alteration
    simpa [htext.1, htext.2] using halter
  · have hchange := tableChange_written hplain table.name (hkey ts)
    simp only [List.cons_append, List.append_assoc, List.nil_append]
    rw [statement_cons, if_pos (by decide), if_neg (by decide), if_pos (by decide)]
    exact hchange

/-- Without the word CONSTRAINT no name of a constraint is taken. -/
theorem constraintName_of_false {t : Token} (h : t.isKeyword "CONSTRAINT" = false)
    (ts : List Token) : constraintName (t :: ts) = .ok () (t :: ts) := by
  unfold constraintName
  rw [bind_of_ok (acceptKeyword_of_false h ts)]
  rfl

/-- A written primary key is added to its table. -/
theorem addedKey_primary (table : String) (line : Nat) {columns : List String} (hne : columns ≠ [])
    (ts : List Token) :
    addedKey table line (bareWord "PRIMARY" :: bareWord "KEY" :: mark "(" ::
        (listTokens columns ++ mark ")" :: ts))
      = .ok (some (.addPrimaryKey table columns line)) ts := by
  unfold addedKey
  rw [bind_of_ok (constraintName_of_false (by decide) _),
    bind_of_ok (acceptKeyword_bareWord (by decide) _), if_pos rfl,
    bind_of_ok (requireKeyword_bareWord (by decide) _), bind_of_ok (nameList_written hne ts)]
  rfl

/-- A written foreign key is read with its columns, its target and the columns there. -/
theorem foreignKeyClause_written (table : String) {columns referenced : List String}
    (hne : columns ≠ []) (hne' : referenced ≠ []) {schema : String} (hplain : '.' ∉ schema.toList)
    (target : String) (ts : List Token) :
    foreignKeyClause table (mark "(" :: (listTokens columns ++ mark ")" :: bareWord "REFERENCES" ::
        (nameTokens schema target ++ mark "(" :: (listTokens referenced ++ mark ")" :: ts))))
      = .ok ⟨table, columns, qualify schema target, referenced⟩ ts := by
  have hname := qualifiedName_written hplain target
    (show (mark "(").isMark "." = false by decide)
  have hreferenced : targetColumns (mark "(" :: (listTokens referenced ++ mark ")" :: ts))
      = .ok referenced ts := by
    unfold targetColumns
    rw [bind_of_ok (startsWith_cons _ _ _), if_pos (isMark_mark "("), nameList_written hne' ts]
  unfold foreignKeyClause
  rw [bind_of_ok (nameList_written hne _), bind_of_ok (requireKeyword_bareWord (by decide) _),
    bind_of_ok (hname _), bind_of_ok hreferenced]
  rfl

/-- A written foreign key is added to its table. -/
theorem addedKey_foreign {table : String} (line : Nat) {key ts : List Token}
    {clause : ForeignKeyClause} (hkey : foreignKeyClause table key = .ok clause ts) :
    addedKey table line (bareWord "FOREIGN" :: bareWord "KEY" :: key)
      = .ok (some (.addForeignKey clause line)) ts := by
  unfold addedKey
  rw [bind_of_ok (constraintName_of_false (by decide) _),
    bind_of_ok (acceptKeyword_of_false (by decide) _), if_neg Bool.false_ne_true,
    bind_of_ok (acceptKeyword_bareWord (by decide) _), if_pos rfl,
    bind_of_ok (requireKeyword_bareWord (by decide) _), bind_of_ok hkey]
  rfl

/-- A primary key is declared with its columns, if it has any. -/
theorem declares_primaryKeyDeclaration {table : Table} (hplain : '.' ∉ table.schema.toList) :
    Declares table.primaryKeyDeclaration
      (if table.primaryKey = [] then []
        else [.addPrimaryKey table.qualifiedName table.primaryKey 1]) := by
  unfold Table.primaryKeyDeclaration
  by_cases hnone : table.primaryKey = []
  · rw [if_pos hnone, if_pos hnone]
    exact .empty
  rw [if_neg hnone, if_neg hnone]
  refine declares_alteration hplain (bareWord "PRIMARY" :: bareWord "KEY" :: mark "(" ::
    (listTokens table.primaryKey ++ [mark ")"])) (fun _ h => ?_) fun ts => ?_
  · have hnames := Spells.quoteNames table.primaryKey h
    have hwords := Spells.spaced ["PRIMARY", "KEY"] (by decide) hnames
    have htext : "PRIMARY KEY " = spaced ["PRIMARY", "KEY"] := by decide
    simpa [htext] using hwords
  · simpa using addedKey_primary table.qualifiedName 1 hnone (mark ";" :: ts)

/-- A foreign key is declared from its column to the column that it refers to. -/
theorem declares_foreignKeyDeclaration {source target : Table} (hplain : '.' ∉ source.schema.toList)
    (hplain' : '.' ∉ target.schema.toList) (column referenced : String) :
    Declares (source.foreignKeyDeclaration column target referenced)
      [.addForeignKey
        ⟨source.qualifiedName, [column], target.qualifiedName, [referenced]⟩ 1] := by
  refine declares_alteration hplain (bareWord "FOREIGN" :: bareWord "KEY" :: mark "(" ::
    (listTokens [column] ++ mark ")" :: bareWord "REFERENCES" ::
      (nameTokens target.schema target.name ++ mark "(" ::
        (listTokens [referenced] ++ [mark ")"])))) (fun _ h => ?_) fun ts => ?_
  · have hreferenced := Spells.space (Spells.quoteNames [referenced] h)
    have htarget := Spells.writtenName target (Spells.apart_space _).head?_ne hreferenced
    have hwords := Spells.space (Spells.spaced ["REFERENCES"] (by decide) htarget)
    have hcolumn := Spells.quoteNames [column] hwords
    have hforeign := Spells.spaced ["FOREIGN", "KEY"] (by decide) hcolumn
    have htext : "FOREIGN KEY " = spaced ["FOREIGN", "KEY"] ∧
        " REFERENCES " = " " ++ spaced ["REFERENCES"] := by decide
    simpa [htext.1, htext.2] using hforeign
  · have hclause := foreignKeyClause_written source.qualifiedName (List.cons_ne_nil column [])
      (List.cons_ne_nil referenced []) hplain' target.name (mark ";" :: ts)
    simpa [Table.qualifiedName] using addedKey_foreign 1 hclause

end SchemaCanvas.Sql
