import SchemaCanvas.Picture.Basic
import SchemaCanvas.Text.Literal

/-!
# Reports as JSON

A report is written on one line, in ASCII alone: characters past ASCII are escaped as units of
sixteen bits.
-/

namespace SchemaCanvas

/-- A JSON document; objects keep the order of their keys. -/
inductive Json
  | number (text : String)
  | string (text : String)
  | array (items : List Json)
  | object (items : List (String × Json))

namespace Json

/-- A unit of sixteen bits as an escape. -/
def unitEscape (n : Nat) : List Char :=
  '\\' :: 'u' :: Text.hex 4 n

/-- A character inside a string. -/
def stringChar (c : Char) : List Char :=
  if c = '"' ∨ c = '\\' then ['\\', c]
  else if c = '\n' then ['\\', 'n']
  else if c = '\r' then ['\\', 'r']
  else if c = '\t' then ['\\', 't']
  else if c = '\x08' then ['\\', 'b']
  else if c = '\x0c' then ['\\', 'f']
  else if ' ' ≤ c ∧ c ≤ '~' then [c]
  else if c.toNat < 0x10000 then unitEscape c.toNat
  else
    let offset := c.toNat - 0x10000
    unitEscape (0xD800 + offset / 0x400) ++ unitEscape (0xDC00 + offset % 0x400)

/-- A text as a JSON string. -/
def quoted (s : String) : String :=
  String.ofList ('"' :: s.toList.flatMap stringChar ++ ['"'])

mutual

/-- The text of a document. -/
def text : Json → String
  | .number digits => digits
  | .string s => quoted s
  | .array values => "[" ++ ", ".intercalate (texts values) ++ "]"
  | .object fields => "\x7b" ++ ", ".intercalate (fieldTexts fields) ++ "\x7d"

/-- The texts of documents. -/
def texts : List Json → List String
  | [] => []
  | value :: values => value.text :: texts values

/-- The texts of the items of an object. -/
def fieldTexts : List (String × Json) → List String
  | [] => []
  | (key, value) :: fields => (quoted key ++ ": " ++ value.text) :: fieldTexts fields

end

/-- A natural number. -/
def ofNat (n : Nat) : Json :=
  .number (toString n)

/-- The names that infinities and what is no number have. -/
def numberNames : Decimal.Names :=
  ⟨"Infinity", "NaN"⟩

/-- A coordinate. -/
def ofNumber (n : Number) : Json :=
  .number (n.text numberNames)

end Json

/-- The picture of a diagram as a report. -/
def Picture.report (p : Picture) (diagram : String) : Json :=
  let node (n : Node) : Json :=
    .object [("name", .string n.name), ("x", .ofNumber n.position.x), ("y", .ofNumber n.position.y),
      ("columns", .array (n.table.columns.map fun column => .string column.name))]
  let edge (k : ForeignKey) : Json :=
    .object [("from", .string k.sourceTable), ("from_column", .string k.sourceColumn),
      ("to", .string k.targetTable), ("to_column", .string k.targetColumn)]
  .object [("diagram", .string diagram), ("nodes", .array (p.nodes.map node)),
    ("edges", .array (p.edges.map edge))]

end SchemaCanvas
