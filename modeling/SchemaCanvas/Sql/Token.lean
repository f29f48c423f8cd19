import SchemaCanvas.Sql.Lexeme
import SchemaCanvas.Text.Letters

/-!
# Tokens of an SQL script

Blanks, comments and stray characters carry no meaning; every other lexeme is a token. A token keeps
the place where its lexeme starts. A list of tokens has no closing token: the end of the list is the
end of the script, and `Script.stop` is its place.
-/

namespace SchemaCanvas.Sql

/-- What a token is. -/
inductive Token.Kind
  | word
  | quoted
  | number
  | string
  | punctuation
  | operator
  deriving DecidableEq, Repr

/-- The word for a kind of token. -/
def Token.Kind.name : Token.Kind → String
  | .word => "word"
  | .quoted => "quoted"
  | .number => "number"
  | .string => "string"
  | .punctuation => "punctuation"
  | .operator => "operator"

/-- The word for what stands at a place: a kind of token, or the end of the script. -/
def Token.Kind.nameOrEnd : Option Token.Kind → String
  | some kind => kind.name
  | none => "eof"

/-- A place in a text; lines and columns count from one. -/
structure Place where
  line : Nat
  column : Nat
  deriving DecidableEq, Repr

/-- The place where a text starts. -/
def Place.start : Place :=
  ⟨1, 1⟩

/-- The place after one more character. -/
def Place.next (p : Place) (c : Char) : Place :=
  if c = '\n' then ⟨p.line + 1, 1⟩ else ⟨p.line, p.column + 1⟩

/-- The place after a piece of text. -/
def Place.after (p : Place) (text : List Char) : Place :=
  text.foldl Place.next p

/-- A meaningful piece of a script and the place where it starts. -/
structure Token where
  kind : Token.Kind
  value : String
  place : Place
  deriving DecidableEq, Repr

namespace Token

/-- The word in capitals when the token is a bare word. -/
def keyword? (t : Token) : Option String :=
  match t.kind with
  | .word => some (Text.upper t.value)
  | _ => none

/-- Whether the token is the bare word `word`, given in capitals. -/
def isKeyword (t : Token) (word : String) : Bool :=
  t.keyword? = some word

/-- Whether the token is one of the bare words, given in capitals. -/
def isKeywordOf (t : Token) (words : List String) : Bool :=
  match t.keyword? with
  | some word => decide (word ∈ words)
  | none => false

/-- Whether the token is the punctuation mark. -/
def isMark (t : Token) (mark : String) : Bool :=
  t.kind = .punctuation && t.value = mark

end Token

/-- The text of a quoted form: without its quotes and with doubled quotes made single. A form that
is never closed loses a quote at its end, if there is one. -/
def unquote (q : Char) (text : List Char) : List Char :=
  let body := text.tail
  Text.collapse q (if body.getLast? = some q then body.dropLast else body)

/-- The kind and value of the token that a lexeme stands for. -/
def Lexeme.meaning? (l : Lexeme) : Option (Token.Kind × List Char) :=
  match l.form with
  | .blank | .lineComment | .blockComment | .stray => none
  | .quotedName => some (.quoted, unquote '"' l.text)
  | .quotedString => some (.string, unquote '\'' l.text)
  | .dollarString => some (.string, l.text)
  | .number => some (.number, l.text)
  | .word => some (.word, l.text)
  | .punctuation => some (.punctuation, l.text)
  | .operator => some (.operator, l.text)

/-- The token of a lexeme that starts at `place`. -/
def Lexeme.token? (place : Place) (l : Lexeme) : Option Token :=
  l.meaning?.map fun meaning => ⟨meaning.1, String.ofList meaning.2, place⟩

/-- The tokens of a script and the place where the script ends. -/
structure Script where
  tokens : List Token
  stop : Place
  deriving DecidableEq, Repr

/-- The script that consists of the lexemes and starts at `place`. -/
def Script.ofLexemes (place : Place) : List Lexeme → Script
  | [] => ⟨[], place⟩
  | l :: ls =>
    let rest := ofLexemes (place.after l.text) ls
    ⟨(l.token? place).toList ++ rest.tokens, rest.stop⟩

/-- The tokens of a text. -/
def Script.ofText (text : String) : Script :=
  ofLexemes .start (Lexeme.scan text.toList)

end SchemaCanvas.Sql
