import SchemaCanvas.Sql.Parser

/-!
# Identifiers

Names of tables and columns are bare words, folded to small letters, or quoted names, taken as they
are. A table is named together with its schema.
-/

namespace SchemaCanvas.Sql

open SchemaCanvas.Sql.Parser

/-- The name that a token writes: bare words are folded to small letters, quoted names are not. -/
def Token.identifier? (t : Token) : Option String :=
  match t.kind with
  | .word => some (Text.lower t.value)
  | .quoted => some t.value
  | _ => none

namespace Statement

/-- Takes a name. -/
def identifier : Parser String
  | [] => failWanted .identifier []
  | t :: ts =>
    match t.identifier? with
    | some name => .ok name ts
    | none => failWanted .identifier (t :: ts)

/-- Takes the schema and the name of a table, with a point between them. -/
def qualifiedName : Parser (String × String) := do
  let schema ← identifier
  let pointed ← acceptMark "."
  ensure pointed (.notQualified schema)
  let table ← identifier
  let again ← startsWith (·.isMark ".")
  ensure (!again) (.tooManyParts schema table)
  ensure (decide ('.' ∉ schema.toList)) (.pointInSchema schema)
  return (schema, table)

/-- Takes names, each after the mark that separates them, as long as that mark comes next. A
separator with no name after it is a failure. -/
def moreNames (separator : String) : Parser (List String)
  | [] => .ok [] []
  | [t] =>
    if t.isMark separator then failWanted .identifier [] else .ok [] [t]
  | t :: u :: ts =>
    if t.isMark separator then
      match u.identifier? with
      | some name =>
        match moreNames separator ts with
        | .ok names rest => .ok (name :: names) rest
        | .error cause rest => .error cause rest
      | none => failWanted .identifier (u :: ts)
    else .ok [] (t :: u :: ts)

/-- Takes names between parentheses, separated by commas. -/
def nameList : Parser (List String) := do
  requireMark "("
  let name ← identifier
  let names ← moreNames ","
  requireMark ")"
  return name :: names

/-- A name leaves a tail of the tokens. -/
theorem shortens_identifier : Shortens identifier := by
  intro ts
  cases ts with
  | nil => exact List.suffix_refl _
  | cons t ts =>
    unfold identifier
    simp only []
    split
    · exact List.suffix_cons t ts
    · exact List.suffix_refl _

/-- Names with separators leave a tail of the tokens, also where a name is missing. -/
theorem shortens_moreNames (separator : String) : Shortens (moreNames separator) := by
  intro ts
  fun_induction moreNames separator ts with
  | case2 t _ => exact List.suffix_cons t []
  | case4 t u ts _ name _ names rest h ih | case5 t u ts _ name _ cause rest h ih =>
    rw [h] at ih
    exact ih.trans ((List.suffix_cons u ts).trans (List.suffix_cons t _))
  | case6 t u ts => exact List.suffix_cons t _
  | _ => exact List.suffix_refl _

/-- A list of names leaves a tail of the tokens. -/
theorem shortens_nameList : Shortens nameList :=
  (shortens_require _ _).bind fun _ => shortens_identifier.bind fun _ =>
    (shortens_moreNames _).bind fun _ => (shortens_require _ _).bind fun _ => .pure _

/-- A qualified name leaves a tail of the tokens. -/
theorem shortens_qualifiedName : Shortens qualifiedName :=
  shortens_identifier.bind fun _ => (shortens_accept _).bind fun _ =>
    (shortens_ensure _ _).bind fun _ => shortens_identifier.bind fun _ =>
      (shortens_startsWith _).bind fun _ => (shortens_ensure _ _).bind fun _ =>
        (shortens_ensure _ _).bind fun _ => .pure _

end Statement

end SchemaCanvas.Sql
