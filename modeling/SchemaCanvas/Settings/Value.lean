import SchemaCanvas.Number.Basic
import SchemaCanvas.Text.Literal

/-!
# Values of a settings document

A document is a table whose values are texts, numbers, truth values, lists and further tables.
`Value.shown` writes a value as it stands in a message.
-/

namespace SchemaCanvas

/-- A value of a settings document; tables keep the order of their keys. -/
inductive Value
  | nothing
  | truth (value : Bool)
  | number (value : Number)
  | text (value : String)
  | list (items : List Value)
  | table (items : List (String × Value))
  deriving Inhabited

namespace Value

/-- The names that infinities and what is no number have in a message. -/
def numberNames : Decimal.Names :=
  ⟨"inf", "nan"⟩

mutual

/-- The value as it stands in a message. -/
def shown : Value → String
  | .nothing => "None"
  | .truth true => "True"
  | .truth false => "False"
  | .number n => n.text numberNames
  | .text s => Text.literal s
  | .list values => "[" ++ ", ".intercalate (shownList values) ++ "]"
  | .table items => "\x7b" ++ ", ".intercalate (shownItems items) ++ "\x7d"

/-- The values of a list as they stand in a message. -/
def shownList : List Value → List String
  | [] => []
  | value :: values => value.shown :: shownList values

/-- The items of a table as they stand in a message. -/
def shownItems : List (String × Value) → List String
  | [] => []
  | (key, value) :: items => (Text.literal key ++ ": " ++ value.shown) :: shownItems items

end

/-- The value by itself in a sentence: a text stands without quotes. -/
def said : Value → String
  | .text s => s
  | value => value.shown

/-- The value under a key of a list of items. -/
def find? (key : String) (items : List (String × Value)) : Option Value :=
  (items.find? fun item => item.1 = key).map Prod.snd

end Value

end SchemaCanvas
