/-!
# Letter case of bare words

Bare words are written in ASCII letters, so folding their case concerns ASCII letters alone and
leaves every other character as it is.
-/

namespace SchemaCanvas.Text

/-- The text with its ASCII capitals made small. -/
def lower (s : String) : String :=
  String.ofList (s.toList.map Char.toLower)

/-- The text with its small ASCII letters made capitals. -/
def upper (s : String) : String :=
  String.ofList (s.toList.map Char.toUpper)

end SchemaCanvas.Text
