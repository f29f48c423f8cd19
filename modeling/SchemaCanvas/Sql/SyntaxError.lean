import SchemaCanvas.Sql.Token

/-!
# What can be wrong with a statement

Each cause names what the parser was looking for and what it found; `SyntaxError.message` words it.
-/

namespace SchemaCanvas.Sql

/-- What stands at the place of an error: the kind and value of a token, or the end of the
script. -/
structure Found where
  kind : Option Token.Kind
  value : String
  deriving DecidableEq, Repr

/-- What the tokens start with. -/
def Found.first : List Token → Found
  | [] => ⟨none, ""⟩
  | t :: _ => ⟨some t.kind, t.value⟩

/-- What the parser was looking for. -/
inductive Wanted
  | value (value : String)
  | kind (kind : Option Token.Kind)
  | keyword (word : String)
  | identifier
  deriving DecidableEq, Repr

/-- Why a statement cannot be understood. -/
inductive SyntaxError
  | expected (wanted : Wanted) (found : Found)
  | notQualified (name : String)
  | tooManyParts (schema table : String)
  | pointInSchema (schema : String)
  | missingType (column : String)
  | statementEndsInTable
  | textEndsInTable (table : String)
  deriving DecidableEq, Repr

/-- The text in double quotes. -/
def inQuotes (text : String) : String :=
  "\"" ++ text ++ "\""

/-- What was wanted, in words. -/
def Wanted.text : Wanted → String
  | .value text => inQuotes text
  | .kind expected => Token.Kind.nameOrEnd expected
  | .keyword word => word
  | .identifier => "identifier"

/-- What was found, in words: its value in quotes, or else `unnamed` for an empty value. -/
def Found.text (f : Found) (unnamed : String) : String :=
  if f.value = "" then unnamed else inQuotes f.value

/-- The wording of a cause. -/
def SyntaxError.message : SyntaxError → String
  | .expected .identifier found =>
    "Expected identifier but found " ++ found.text "end of input"
  | .expected wanted found =>
    "Expected " ++ wanted.text ++ " but found " ++ found.text (Token.Kind.nameOrEnd found.kind)
  | .notQualified name =>
    "Table name " ++ inQuotes name ++ " must be qualified as schema.table"
  | .tooManyParts schema table =>
    "Table name " ++ inQuotes (schema ++ "." ++ table) ++ " has too many parts"
  | .pointInSchema schema => "Schema name " ++ inQuotes schema ++ " cannot contain \".\""
  | .missingType column => "Missing type for column " ++ inQuotes column
  | .statementEndsInTable => "Missing ) before end of statement"
  | .textEndsInTable table => "Missing ) in table " ++ inQuotes table

end SchemaCanvas.Sql
