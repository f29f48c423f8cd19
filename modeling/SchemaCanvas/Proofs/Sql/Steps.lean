import SchemaCanvas.Proofs.Sequence
import SchemaCanvas.Sql.Statement.Parser

/-!
# Parsers as sequences of steps

The parsers that call themselves take one step and go on with what it leaves. Here each of them is
put as a sequence of parsers, so that what is known of sequences applies to them.
-/

namespace SchemaCanvas.Sql.Statement

open SchemaCanvas.Sql.Parser

/-- Further names: a separator, a name, and further names. -/
theorem moreNames_cons (separator : String) (t : Token) (ts : List Token) :
    moreNames separator (t :: ts) =
      if t.isMark separator then
        (identifier >>= fun name => moreNames separator >>= fun names =>
          Pure.pure (name :: names)) ts
      else .ok [] (t :: ts) := by
  cases ts with
  | nil =>
    rw [moreNames]
    rfl
  | cons u ts =>
    rw [moreNames]
    split
    · cases hu : u.identifier? with
      | none => rw [bind_of_error (by rw [identifier, hu]; rfl)]; rfl
      | some name =>
        rw [bind_of_ok (by rw [identifier, hu])]
        cases h : moreNames separator ts with
        | ok names rest => rw [bind_of_ok h]; rfl
        | error cause rest => rw [bind_of_error h]
    · rfl

/-- An element of a table: one token of it, and then the rest of it. -/
theorem element_cons (depth : Nat) (t : Token) (ts : List Token) :
    element depth (t :: ts) =
      if t.isMark ";" then .error .statementEndsInTable (t :: ts)
      else if depth = 0 ∧ (t.isMark "," ∨ t.isMark ")") then .ok [] (t :: ts)
      else
        (element (depthAfter depth t) >>= fun tokens =>
          Pure.pure (if depthAfter depth t = 0 then t :: tokens else tokens)) ts := by
  rw [element]
  split
  · rfl
  split
  · rfl
  cases h : element (depthAfter depth t) ts with
  | ok tokens rest => rw [bind_of_ok h]; rfl
  | error cause rest => rw [bind_of_error h]

/-- What may follow the name of a type, one step of it in sequence with the further ones. -/
theorem typeSuffix_cons (t : Token) (ts : List Token) :
    typeSuffix (t :: ts) =
      if t.isMark "(" then
        (typeSuffix >>= fun parts => Pure.pure (typeText t :: (arguments 1 ts).1 ++ parts))
          (arguments 1 ts).2
      else if t.isMark "[" then
        (arrayBound >>= fun _ => typeSuffix >>= fun parts => Pure.pure ("[]" :: parts)) ts
      else if t.isKeywordOf typeContinuationWords then
        (typeSuffix >>= fun parts => Pure.pure (" " :: Text.lower t.value :: parts)) ts
      else .ok [] (t :: ts) := by
  rw [typeSuffix]
  split
  · cases h : typeSuffix (arguments 1 ts).2 with
    | ok parts rest => rw [bind_of_ok h]; rfl
    | error cause rest => rw [bind_of_error h]
  split
  · split
    · next after h =>
      rw [bind_of_ok h]
      cases hmore : typeSuffix after with
      | ok parts rest => rw [bind_of_ok hmore]; rfl
      | error cause rest => rw [bind_of_error hmore]
    · next h => rw [bind_of_error h]
  split
  · cases h : typeSuffix ts with
    | ok parts rest => rw [bind_of_ok h]; rfl
    | error cause rest => rw [bind_of_error h]
  · rfl

/-- The type of a column is a dotted name and what may follow it, in sequence. -/
theorem columnType_cons (name : String) (t : Token) (ts : List Token) :
    columnType name (t :: ts) =
      if t.kind = .quoted ∨ (t.kind = .word ∧ t.isKeywordOf typeEndWords = false) then
        (moreNames "." >>= fun path => typeSuffix >>= fun parts =>
          Pure.pure (String.join (typeText t :: pathText path ++ parts))) ts
      else .error (.missingType name) (t :: ts) := by
  rw [columnType]
  split
  · split
    · next h =>
      rw [bind_of_ok h]
      split
      · next h' => rw [bind_of_ok h']; rfl
      · next h' => rw [bind_of_error h']
    · next h => rw [bind_of_error h]
  · rfl

/-- The rest of the body of a table, one element of it in sequence with the further ones. -/
theorem tableBody_cons (table : String) (t : Token) (ts : List Token) :
    tableBody table (t :: ts) =
      if t.isMark ")" then .ok [] ts
      else if t.isMark "," then tableBody table ts
      else if t.isKeywordOf tableConstraintWords then
        (element 0 >>= fun _ => tableBody table) ts
      else
        (column >>= fun c => tableBody table >>= fun cs => Pure.pure (c :: cs)) (t :: ts) := by
  rw [tableBody]
  split
  · rfl
  split
  · rfl
  split
  · split
    · next h => rw [bind_of_ok h]
    · next h => rw [bind_of_error h]
  · split
    · next h =>
      rw [bind_of_ok h]
      dsimp only
      split
      · next h' => rw [bind_of_ok h']; rfl
      · next h' => rw [bind_of_error h']
    · next h => rw [bind_of_error h]

/-- Takes the actions on a table that follow one that has been read. -/
def moreActions (table : String) (line : Nat) (statement : Option Statement) :
    Parser (List Statement) := fun after =>
  match skipAction 0 after with
  | [] => .ok statement.toList []
  | t :: rest =>
    if t.isMark "," then
      bind (m := Parser) (tableActions table line)
        (fun statements => Pure.pure (statement.toList ++ statements)) rest
    else .ok statement.toList (t :: rest)

/-- Further actions come behind a comma where the last one ends. -/
theorem moreActions_of_cons {table : String} {line : Nat} {statement : Option Statement}
    {after rest : List Token} {t : Token} (h : skipAction 0 after = t :: rest) :
    moreActions table line statement after =
      if t.isMark "," then
        bind (m := Parser) (tableActions table line)
          (fun statements => Pure.pure (statement.toList ++ statements)) rest
      else .ok statement.toList (t :: rest) := by
  rw [moreActions, h]

/-- The actions on a table are the first one and the further ones in sequence. -/
theorem tableActions_eq (table : String) (line : Nat) (ts : List Token) :
    tableActions table line ts = (tableAction table line >>= moreActions table line) ts := by
  rw [tableActions]
  split
  · next h => rw [bind_of_error h]
  · next statement after h =>
    rw [bind_of_ok h]
    split
    · next hr => rw [moreActions, hr]
    · next t rest hr =>
      rw [moreActions_of_cons hr]
      split
      · cases hmore : tableActions table line rest with
        | ok statements rest => rw [bind_of_ok hmore]; rfl
        | error cause rest => rw [bind_of_error hmore]
      · rfl

/-- A statement is told by its first two words; one about other things is passed over. -/
theorem statement_cons (t u : Token) (ts : List Token) :
    statement (t :: u :: ts) =
      if u.isKeyword "TABLE" then
        if t.isKeyword "CREATE" then
          (tableDeclaration t.place.line >>= fun declaration => Pure.pure [declaration]) ts
        else if t.isKeyword "ALTER" then tableChange t.place.line ts
        else .ok [] (skipStatement (t :: u :: ts))
      else .ok [] (skipStatement (t :: u :: ts)) := by
  rw [statement]
  split
  · split
    · cases h : tableDeclaration t.place.line ts with
      | ok declaration rest => rw [bind_of_ok h]; rfl
      | error cause rest => rw [bind_of_error h]
    · rfl
  · rfl

end SchemaCanvas.Sql.Statement
