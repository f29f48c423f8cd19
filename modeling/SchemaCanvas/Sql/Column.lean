import SchemaCanvas.Schema.Basic
import SchemaCanvas.Sql.Identifier

/-!
# Columns of a table

A column is a name, a type, and whatever else stands before the comma or parenthesis that ends the
element. Of the rest only two things are kept: whether it says NOT NULL and whether it says DEFAULT,
both outside parentheses.
-/

namespace SchemaCanvas.Sql

open SchemaCanvas.Sql.Parser

namespace Statement

/-- Words that end the type of a column and start what follows it. -/
def typeEndWords : List String :=
  ["NOT", "NULL", "DEFAULT", "GENERATED", "CONSTRAINT", "PRIMARY", "REFERENCES", "UNIQUE", "CHECK",
   "COLLATE"]

/-- Words that continue the type of a column, as in `timestamp with time zone`. -/
def typeContinuationWords : List String :=
  ["WITH", "WITHOUT", "TIME", "ZONE", "VARYING", "PRECISION"]

/-- The number of open parentheses after a token. -/
def depthAfter (depth : Nat) (t : Token) : Nat :=
  if t.isMark "(" then depth + 1 else if t.isMark ")" then depth - 1 else depth

/-- Takes the tokens of an element of a table, up to the comma or parenthesis that ends it, which
is left. The answer holds the tokens outside nested parentheses and the parenthesis that closes each
outermost group. A semicolon at any depth is a failure. -/
def element (depth : Nat) : Parser (List Token)
  | [] => .ok [] []
  | t :: ts =>
    if t.isMark ";" then .error .statementEndsInTable (t :: ts)
    else if depth = 0 ∧ (t.isMark "," ∨ t.isMark ")") then .ok [] (t :: ts)
    else
      match element (depthAfter depth t) ts with
      | .ok tokens rest => .ok (if depthAfter depth t = 0 then t :: tokens else tokens) rest
      | .error cause rest => .error cause rest

/-- The value of a token inside a type: bare words are folded to small letters. -/
def typeText (t : Token) : String :=
  match t.kind with
  | .word => Text.lower t.value
  | _ => t.value

/-- Takes tokens up to the parenthesis that brings the number of open ones down to zero, or to the
end of the script, and answers with their texts. -/
def arguments (depth : Nat) : List Token → List String × List Token
  | [] => ([], [])
  | t :: ts =>
    if t.isMark ")" ∧ depth ≤ 1 then ([typeText t], ts)
    else
      let more := arguments (depthAfter depth t) ts
      (typeText t :: more.1, more.2)

/-- The text of the further parts of a dotted type name, a point before each. -/
def pathText (names : List String) : List String :=
  names.flatMap fun name => [".", name]

@[simp] theorem pathText_nil : pathText [] = [] := rfl

/-- Takes what stands between the brackets of an array type, and the closing bracket. -/
def arrayBound : Parser Unit := do
  let _ ← accept (·.kind = .number)
  requireMark "]"

/-- The arguments of a type leave a tail of the tokens. -/
theorem arguments_suffix (depth : Nat) (ts : List Token) : (arguments depth ts).2 <:+ ts := by
  induction ts generalizing depth with
  | nil => exact List.suffix_refl _
  | cons t ts ih =>
    rw [arguments]
    split
    · exact List.suffix_cons t ts
    · exact (ih _).trans (List.suffix_cons t ts)

/-- An array bound leaves a tail of the tokens. -/
theorem shortens_arrayBound : Shortens arrayBound :=
  .bind (shortens_accept _) fun _ => shortens_require _ _

/-- Takes what may follow the name of a type, as long as there is any: arguments in parentheses,
array brackets, and continuation words. -/
def typeSuffix : Parser (List String)
  | [] => .ok [] []
  | t :: ts =>
    if t.isMark "(" then
      match typeSuffix (arguments 1 ts).2 with
      | .ok parts rest => .ok (typeText t :: (arguments 1 ts).1 ++ parts) rest
      | .error cause rest => .error cause rest
    else if t.isMark "[" then
      match _ : arrayBound ts with
      | .ok _ rest =>
        match typeSuffix rest with
        | .ok parts rest => .ok ("[]" :: parts) rest
        | .error cause rest => .error cause rest
      | .error cause rest => .error cause rest
    else if t.isKeywordOf typeContinuationWords then
      match typeSuffix ts with
      | .ok parts rest => .ok (" " :: Text.lower t.value :: parts) rest
      | .error cause rest => .error cause rest
    else .ok [] (t :: ts)
termination_by ts => ts.length
decreasing_by
  · exact Nat.lt_succ_of_le (arguments_suffix 1 ts).length_le
  · exact Nat.lt_succ_of_le (shortens_arrayBound.of_ok ‹arrayBound ts = .ok _ rest›).length_le
  · exact Nat.lt_succ_self _

/-- Takes the type of the column called `name`. -/
def columnType (name : String) : Parser String
  | [] => .error (.missingType name) []
  | t :: ts =>
    if t.kind = .quoted ∨ (t.kind = .word ∧ t.isKeywordOf typeEndWords = false) then
      match moreNames "." ts with
      | .ok path rest =>
        match typeSuffix rest with
        | .ok parts rest => .ok (String.join (typeText t :: pathText path ++ parts)) rest
        | .error cause rest => .error cause rest
      | .error cause rest => .error cause rest
    else .error (.missingType name) (t :: ts)

/-- Whether the words NOT and NULL stand next to each other. -/
def saysNotNull : List Token → Bool
  | t :: u :: ts => (t.isKeyword "NOT" && u.isKeyword "NULL") || saysNotNull (u :: ts)
  | _ => false

/-- Takes the type of the column called `name` and what follows the type. -/
def columnDefinition (name : String) : Parser Column := do
  let type ← columnType name
  let modifiers ← element 0
  return {
    name, type
    nullable := !saysNotNull modifiers
    hasDefault := modifiers.any (·.isKeyword "DEFAULT") }

/-- Takes a column. -/
def column : Parser Column := do
  let name ← identifier
  columnDefinition name

/-- An element of a table leaves a tail of the tokens, also where a semicolon ends it. -/
theorem shortens_element (depth : Nat) : Shortens (element depth) := by
  intro ts
  fun_induction element depth ts with
  | case1 => exact List.suffix_refl _
  | case2 => exact List.suffix_refl _
  | case3 => exact List.suffix_refl _
  | case4 depth t ts _ _ tokens rest h ih =>
    rw [h] at ih
    exact ih.trans (List.suffix_cons t ts)
  | case5 depth t ts _ _ cause rest h ih =>
    rw [h] at ih
    exact ih.trans (List.suffix_cons t ts)

/-- What follows the name of a type leaves a tail of the tokens. -/
theorem shortens_typeSuffix : Shortens typeSuffix := by
  intro ts
  fun_induction typeSuffix ts with
  | case2 t ts _ parts rest h ih | case3 t ts _ cause rest h ih =>
    rw [h] at ih
    exact (ih.trans (arguments_suffix 1 ts)).trans (List.suffix_cons t ts)
  | case4 t ts _ _ _ rest hb parts rest' h ih | case5 t ts _ _ _ rest hb cause rest' h ih =>
    rw [h] at ih
    exact (ih.trans (shortens_arrayBound.of_ok hb)).trans (List.suffix_cons t ts)
  | case6 t ts _ _ cause rest hb =>
    exact (shortens_arrayBound.of_error hb).trans (List.suffix_cons t ts)
  | case7 t ts _ _ _ parts rest h ih | case8 t ts _ _ _ cause rest h ih =>
    rw [h] at ih
    exact ih.trans (List.suffix_cons t ts)
  | _ => exact List.suffix_refl _

/-- The type of a column leaves a tail of the tokens. -/
theorem shortens_columnType (name : String) : Shortens (columnType name) := by
  intro ts
  cases ts with
  | nil => exact List.suffix_refl _
  | cons t ts =>
    unfold columnType
    simp only []
    split
    · split
      · next path rest h =>
        have hpath := ((shortens_moreNames _).of_ok h).trans (List.suffix_cons t ts)
        split
        · next h' => exact (shortens_typeSuffix.of_ok h').trans hpath
        · next h' => exact (shortens_typeSuffix.of_error h').trans hpath
      · next h => exact ((shortens_moreNames _).of_error h).trans (List.suffix_cons t ts)
    · exact List.suffix_refl _

/-- A type and the modifiers after it leave a tail of the tokens. -/
theorem shortens_columnDefinition (name : String) : Shortens (columnDefinition name) :=
  (shortens_columnType name).bind fun _ => (shortens_element 0).bind fun _ => .pure _

/-- A column leaves a tail of the tokens. -/
theorem shortens_column : Shortens column :=
  shortens_identifier.bind fun name => shortens_columnDefinition name

/-- A column that is read takes at least its name. -/
theorem length_column_lt {t : Token} {ts rest : List Token} {c : Column}
    (h : column (t :: ts) = .ok c rest) : rest.length < (t :: ts).length := by
  unfold column at h
  change EStateM.bind identifier columnDefinition (t :: ts) = _ at h
  unfold EStateM.bind identifier at h
  simp only [] at h
  cases hn : t.identifier? with
  | none => simp [hn, failWanted] at h
  | some name =>
    simp only [hn] at h
    exact Nat.lt_succ_of_le ((shortens_columnDefinition name).of_ok h).length_le

end Statement

end SchemaCanvas.Sql
