import SchemaCanvas.Sql.SyntaxError

/-!
# A cursor over a script

A cursor stands before one of the tokens of a script, or at its end, where it reads the end of the
script for ever. Positions are counts of the tokens before the cursor; a position once read can be
returned to.
-/

namespace SchemaCanvas.Sql

/-- A script and a position in it. -/
structure Cursor where
  script : Script
  position : Nat
  deriving DecidableEq, Repr

namespace Cursor

/-- The cursor at the start of a script. -/
def start (script : Script) : Cursor :=
  ⟨script, 0⟩

/-- The tokens from the cursor on. -/
def rest (c : Cursor) : List Token :=
  c.script.tokens.drop c.position

/-- The token at the cursor, or nothing at the end. -/
def peek (c : Cursor) : Option Token :=
  c.rest.head?

/-- The token `n` places after the cursor, or nothing past the end. -/
def lookAhead (c : Cursor) (n : Nat) : Option Token :=
  c.rest[n]?

/-- The cursor after the token at it; the end is never passed. -/
def advance (c : Cursor) : Cursor :=
  match c.rest with
  | [] => c
  | _ :: _ => { c with position := c.position + 1 }

/-- The place of the token at the cursor. -/
def place (c : Cursor) : Place :=
  match c.peek with
  | some t => t.place
  | none => c.script.stop

/-- Whether the cursor is at the end. -/
def atEnd (c : Cursor) : Bool :=
  c.rest.isEmpty

/-- Whether a token of the kind is at the cursor, or the end when no kind is given; and, when a
value is given, whether it has this value. The end has the empty value. -/
def isAt (c : Cursor) (kind : Option Token.Kind) (value : Option String) : Bool :=
  let found := Found.first c.rest
  decide (found.kind = kind) && value.all (· = found.value)

/-- Whether one of the bare words, given in capitals, is at the cursor. -/
def isAtKeyword (c : Cursor) (words : List String) : Bool :=
  c.peek.any (·.isKeywordOf words)

/-- Passes what is at the cursor if it is of the kind and value, and answers whether it is. -/
def accept (c : Cursor) (kind : Option Token.Kind) (value : Option String) : Bool × Cursor :=
  if c.isAt kind value then (true, c.advance) else (false, c)

/-- Passes one of the bare words, and answers whether one is at the cursor. -/
def acceptKeyword (c : Cursor) (words : List String) : Bool × Cursor :=
  if c.isAtKeyword words then (true, c.advance) else (false, c)

/-- Passes what is at the cursor, which must be of the kind and value. -/
def expect (c : Cursor) (kind : Option Token.Kind) (value : Option String) :
    Except SyntaxError Cursor :=
  if c.isAt kind value then .ok c.advance
  else
    let wanted := match value with
      | some value => .value value
      | none => .kind kind
    .error (.expected wanted (Found.first c.rest))

/-- Passes the bare word, which must be at the cursor. -/
def expectKeyword (c : Cursor) (word : String) : Except SyntaxError Cursor :=
  if c.isAtKeyword [word] then .ok c.advance
  else .error (.expected (.keyword word) (Found.first c.rest))

/-- The cursor at an earlier position. -/
def restore (c : Cursor) (position : Nat) : Cursor :=
  { c with position := position }

end Cursor

end SchemaCanvas.Sql
