import SchemaCanvas.Sql.Column
import SchemaCanvas.Sql.Statement
import SchemaCanvas.Warning

/-!
# Reading the statements of a script

`Statement.collect` reads the tokens of a script in rounds, one statement a round. A round gives the
declarations of its statement, nothing for a statement about other things, or a warning for one that
cannot be understood; after a failure the tokens up to the next semicolon are passed over. A round
takes at least one token (`Statement.length_round_lt`), so the reading ends.
-/

namespace SchemaCanvas.Sql

open SchemaCanvas.Sql.Parser

namespace Statement

/-- Words that start an element of a table that is no column. -/
def tableConstraintWords : List String :=
  ["CONSTRAINT", "PRIMARY", "FOREIGN", "UNIQUE", "CHECK", "EXCLUDE", "LIKE"]

/-- Takes the elements of a table up to the parenthesis that closes it, and answers with the
columns. -/
def tableBody (table : String) : Parser (List Column)
  | [] => .error (.textEndsInTable table) []
  | t :: ts =>
    if t.isMark ")" then .ok [] ts
    else if t.isMark "," then tableBody table ts
    else if t.isKeywordOf tableConstraintWords then
      match h : element 0 ts with
      | .ok _ rest =>
        have : rest.length ≤ ts.length := by
          have hs := shortens_element 0 ts
          rw [h] at hs
          exact hs.length_le
        tableBody table rest
      | .error cause rest => .error cause rest
    else
      match h : column (t :: ts) with
      | .ok c rest =>
        have := length_column_lt h
        match tableBody table rest with
        | .ok cs rest => .ok (c :: cs) rest
        | .error cause rest => .error cause rest
      | .error cause rest => .error cause rest
termination_by ts => ts.length
decreasing_by all_goals simp only [List.length_cons] at *; omega

/-- The tokens after the next semicolon, or none. -/
def skipStatement : List Token → List Token
  | [] => []
  | t :: ts => if t.isMark ";" then ts else skipStatement ts

/-- The tokens from the comma or semicolon on that ends an action of a statement; a comma counts
outside parentheses only. -/
def skipAction (depth : Nat) : List Token → List Token
  | [] => []
  | t :: ts =>
    if t.isMark ";" ∨ (t.isMark "," ∧ depth = 0) then t :: ts
    else skipAction (depthAfter depth t) ts

/-- Takes the words IF NOT EXISTS, of which the first is optional. -/
def ifNotExists : Parser Unit := do
  let present ← acceptKeyword "IF"
  if present then
    requireKeyword "NOT"
    requireKeyword "EXISTS"
  else pure ()

/-- Takes the words IF EXISTS, of which the first is optional. -/
def ifExists : Parser Unit := do
  let present ← acceptKeyword "IF"
  if present then requireKeyword "EXISTS" else pure ()

/-- Takes the statement that starts on `line`, from after the words CREATE TABLE on. -/
def tableDeclaration (line : Nat) : Parser Statement := do
  ifNotExists
  let name ← qualifiedName
  requireMark "("
  let columns ← tableBody (qualify name.1 name.2)
  modify skipStatement
  return .createTable ⟨name.1, name.2, columns, []⟩ line

/-- Takes the names of the columns that a foreign key refers to, if there are any. -/
def targetColumns : Parser (List String) := do
  let present ← startsWith (·.isMark "(")
  if present then nameList else pure []

/-- Takes the rest of a foreign key on `table`, from after the words FOREIGN KEY on. -/
def foreignKeyClause (table : String) : Parser ForeignKeyClause := do
  let columns ← nameList
  requireKeyword "REFERENCES"
  let target ← qualifiedName
  let referenced ← targetColumns
  return ⟨table, columns, qualify target.1 target.2, referenced⟩

/-- Takes the name that the word CONSTRAINT gives to a constraint, if there is one. -/
def constraintName : Parser Unit := do
  let present ← acceptKeyword "CONSTRAINT"
  if present then
    let _ ← identifier
    return ()
  else pure ()

/-- Takes a key that is added to `table`, if one is. -/
def addedKey (table : String) (line : Nat) : Parser (Option Statement) := do
  constraintName
  let primary ← acceptKeyword "PRIMARY"
  if primary then
    requireKeyword "KEY"
    let columns ← nameList
    return some (.addPrimaryKey table columns line)
  else
    let foreign ← acceptKeyword "FOREIGN"
    if foreign then
      requireKeyword "KEY"
      let clause ← foreignKeyClause table
      return some (.addForeignKey clause line)
    else return none

/-- Takes what an action on `table` declares, if it adds a key. -/
def tableAction (table : String) (line : Nat) : Parser (Option Statement) := do
  let adds ← acceptKeyword "ADD"
  if adds then addedKey table line else pure none

/-- What follows the next semicolon is a tail of the tokens. -/
theorem skipStatement_suffix (ts : List Token) : skipStatement ts <:+ ts := by
  induction ts with
  | nil => exact List.suffix_refl _
  | cons t ts ih =>
    rw [skipStatement]
    split
    · exact List.suffix_cons t ts
    · exact ih.trans (List.suffix_cons t ts)

/-- What is left of an action is a tail of the tokens. -/
theorem skipAction_suffix (depth : Nat) (ts : List Token) : skipAction depth ts <:+ ts := by
  induction ts generalizing depth with
  | nil => exact List.suffix_refl _
  | cons t ts ih =>
    rw [skipAction]
    split
    · exact List.suffix_refl _
    · exact (ih _).trans (List.suffix_cons t ts)

/-- A foreign key leaves a tail of the tokens. -/
theorem shortens_foreignKeyClause (table : String) : Shortens (foreignKeyClause table) :=
  shortens_nameList.bind fun _ => (shortens_require _ _).bind fun _ =>
    shortens_qualifiedName.bind fun _ =>
      ((shortens_startsWith _).bind fun _ => .ite shortens_nameList (.pure _)).bind fun _ =>
        .pure _

/-- What an action adds leaves a tail of the tokens. -/
theorem shortens_addedKey (table : String) (line : Nat) : Shortens (addedKey table line) := by
  refine Shortens.bind ?_ fun _ => (shortens_accept _).bind fun _ => .ite ?_ ?_
  · exact (shortens_accept _).bind fun _ =>
      .ite (shortens_identifier.bind fun _ => .pure _) (.pure _)
  · exact (shortens_require _ _).bind fun _ => shortens_nameList.bind fun _ => .pure _
  · refine (shortens_accept _).bind fun _ => .ite ?_ (.pure _)
    exact (shortens_require _ _).bind fun _ =>
      (shortens_foreignKeyClause table).bind fun _ => .pure _

/-- An action on a table leaves a tail of the tokens. -/
theorem shortens_tableAction (table : String) (line : Nat) : Shortens (tableAction table line) :=
  (shortens_accept _).bind fun _ => .ite (shortens_addedKey table line) (.pure _)

/-- Takes the actions on `table`, which are separated by commas. -/
def tableActions (table : String) (line : Nat) (ts : List Token) : Parser.Answer (List Statement) :=
  match h : tableAction table line ts with
  | .error cause rest => .error cause rest
  | .ok statement after =>
    match hr : skipAction 0 after with
    | [] => .ok statement.toList []
    | t :: rest =>
      have : rest.length < ts.length := by
        have hs := shortens_tableAction table line ts
        rw [h] at hs
        have hs := hs.length_le
        have ha := (skipAction_suffix 0 after).length_le
        simp only [left, hr, List.length_cons] at hs ha
        omega
      if t.isMark "," then
        match tableActions table line rest with
        | .ok statements rest => .ok (statement.toList ++ statements) rest
        | .error cause rest => .error cause rest
      else .ok statement.toList (t :: rest)
termination_by ts.length

/-- Takes the statement that starts on `line`, from after the words ALTER TABLE on. -/
def tableChange (line : Nat) : Parser (List Statement) := do
  ifExists
  let _ ← acceptKeyword "ONLY"
  let name ← qualifiedName
  let statements ← tableActions (qualify name.1 name.2) line
  let _ ← acceptMark ";"
  return statements

/-- Takes one statement and answers with what it declares about tables. -/
def statement : Parser (List Statement)
  | t :: u :: ts =>
    if u.isKeyword "TABLE" then
      if t.isKeyword "CREATE" then
        match tableDeclaration t.place.line ts with
        | .ok declaration rest => .ok [declaration] rest
        | .error cause rest => .error cause rest
      else if t.isKeyword "ALTER" then tableChange t.place.line ts
      else .ok [] (skipStatement (t :: u :: ts))
    else .ok [] (skipStatement (t :: u :: ts))
  | ts => .ok [] (skipStatement ts)

/-- All actions on a table leave a tail of the tokens. -/
theorem shortens_tableActions (table : String) (line : Nat) :
    Shortens (tableActions table line) := by
  intro ts
  fun_induction tableActions table line ts with
  | case1 ts cause rest h => exact (shortens_tableAction table line).of_error h
  | case2 ts statement after h hr =>
    exact List.nil_suffix
  | case3 ts statement after h t rest hr _ _ statements rest' h' ih
  | case4 ts statement after h t rest hr _ _ cause rest' h' ih =>
    have hs := (shortens_tableAction table line).of_ok h
    have ha := skipAction_suffix 0 after
    rw [h'] at ih
    rw [hr] at ha
    exact (ih.trans (List.suffix_cons t rest)).trans (ha.trans hs)
  | case5 ts statement after h t rest hr _ _ =>
    have hs := (shortens_tableAction table line).of_ok h
    have ha := skipAction_suffix 0 after
    rw [hr] at ha
    exact ha.trans hs

/-- The body of a table leaves a tail of the tokens, also where it is not understood. -/
theorem shortens_tableBody (table : String) : Shortens (tableBody table) := by
  intro ts
  fun_induction tableBody table ts with
  | case1 => exact List.suffix_refl _
  | case2 t ts => exact List.suffix_cons t ts
  | case3 t ts _ _ ih => exact ih.trans (List.suffix_cons t ts)
  | case4 t ts _ _ _ _ rest h _ ih =>
    exact (ih.trans ((shortens_element 0).of_ok h)).trans (List.suffix_cons t ts)
  | case5 t ts _ _ _ cause rest h =>
    exact ((shortens_element 0).of_error h).trans (List.suffix_cons t ts)
  | case6 t ts _ _ _ c rest h _ cs rest' h' ih | case7 t ts _ _ _ c rest h _ cause rest' h' ih =>
    rw [h'] at ih
    exact ih.trans (shortens_column.of_ok h)
  | case8 t ts _ _ _ cause rest h => exact shortens_column.of_error h

/-- Passing over the rest of a statement leaves a tail of the tokens. -/
theorem shortens_modify_skipStatement :
    Shortens (modify skipStatement : Parser PUnit) :=
  fun ts => skipStatement_suffix ts

/-- The words IF NOT EXISTS leave a tail of the tokens. -/
theorem shortens_ifNotExists : Shortens ifNotExists :=
  (shortens_accept _).bind fun _ =>
    .ite ((shortens_require _ _).bind fun _ => shortens_require _ _) (.pure _)

/-- The declaration of a table leaves a tail of the tokens. -/
theorem shortens_tableDeclaration (line : Nat) : Shortens (tableDeclaration line) :=
  shortens_ifNotExists.bind fun _ => shortens_qualifiedName.bind fun _ =>
    (shortens_require _ _).bind fun _ => (shortens_tableBody _).bind fun _ =>
      shortens_modify_skipStatement.bind fun _ => .pure _

/-- The words IF EXISTS leave a tail of the tokens. -/
theorem shortens_ifExists : Shortens ifExists :=
  (shortens_accept _).bind fun _ => .ite (shortens_require _ _) (.pure _)

/-- A change of a table leaves a tail of the tokens. -/
theorem shortens_tableChange (line : Nat) : Shortens (tableChange line) :=
  shortens_ifExists.bind fun _ => (shortens_accept _).bind fun _ =>
    shortens_qualifiedName.bind fun _ => (shortens_tableActions _ line).bind fun _ =>
      (shortens_accept _).bind fun _ => .pure _

/-- Passing over a statement takes at least its first token. -/
theorem length_skipStatement_lt (t : Token) (ts : List Token) :
    (skipStatement (t :: ts)).length < (t :: ts).length := by
  rw [skipStatement]
  split
  · exact Nat.lt_succ_self _
  · exact Nat.lt_succ_of_le (skipStatement_suffix ts).length_le

/-- A statement takes at least one token, whether it is understood or not. -/
theorem length_left_statement_lt (t : Token) (ts : List Token) :
    (left (statement (t :: ts))).length < (t :: ts).length := by
  have skips : (left (.ok [] (skipStatement (t :: ts)) : Parser.Answer (List Statement))).length
      < (t :: ts).length := length_skipStatement_lt t ts
  cases ts with
  | nil => exact skips
  | cons u ts =>
    unfold statement
    simp only []
    split
    · split
      · have hs := shortens_tableDeclaration t.place.line ts
        split
        · next h =>
          rw [h] at hs
          have := hs.length_le
          simp only [left, List.length_cons] at *
          omega
        · next h =>
          rw [h] at hs
          have := hs.length_le
          simp only [left, List.length_cons] at *
          omega
      · split
        · have := (shortens_tableChange t.place.line ts).length_le
          simp only [List.length_cons]
          omega
        · exact skips
    · exact skips

/-- What one round of reading gives: declarations, or a warning on the line of the statement. -/
abbrev Round := List Statement ⊕ Warning

/-- Reads one statement, and passes over the rest of one that cannot be understood. -/
def round (t : Token) (ts : List Token) : Round × List Token :=
  match statement (t :: ts) with
  | .ok statements rest => (.inl statements, rest)
  | .error cause rest =>
    (.inr ⟨.syntactic, cause.message, some t.place.line⟩, skipStatement rest)

/-- A round takes at least the token that it starts at, so the reading of a script ends. -/
theorem length_round_lt (t : Token) (ts : List Token) :
    (round t ts).2.length < (t :: ts).length := by
  have hs := length_left_statement_lt t ts
  unfold round
  split
  · next h => rw [h] at hs; exact hs
  · next rest h =>
    rw [h] at hs
    exact Nat.lt_of_le_of_lt (skipStatement_suffix rest).length_le hs

/-- Reads all statements: the declarations and the warnings, both in the order of the script. -/
def collect : List Token → List Statement × List Warning
  | [] => ([], [])
  | t :: ts =>
    let more := collect (round t ts).2
    match (round t ts).1 with
    | .inl statements => (statements ++ more.1, more.2)
    | .inr warning => (more.1, warning :: more.2)
termination_by ts => ts.length
decreasing_by exact length_round_lt t ts

end Statement

end SchemaCanvas.Sql
