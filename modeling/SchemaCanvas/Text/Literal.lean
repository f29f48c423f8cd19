import SchemaCanvas.Text.Printable

/-!
# Text shown in a message

A text from a document is shown between quotes, with what cannot be shown escaped. Single quotes are
used unless the text holds a single quote and no double one.
-/

namespace SchemaCanvas.Text

/-- The last `count` hexadecimal digits of a number. -/
def hex : (count : Nat) → (n : Nat) → List Char
  | 0, _ => []
  | count + 1, n => hex count (n / 16) ++ [Nat.digitChar (n % 16)]

/-- A character between quotes `q`, escaped if it must be. -/
def literalChar (q c : Char) : List Char :=
  if c = q ∨ c = '\\' then ['\\', c]
  else if c = '\n' then ['\\', 'n']
  else if c = '\r' then ['\\', 'r']
  else if c = '\t' then ['\\', 't']
  else if isPrintable c then [c]
  else if c.toNat < 0x100 then '\\' :: 'x' :: hex 2 c.toNat
  else if c.toNat < 0x10000 then '\\' :: 'u' :: hex 4 c.toNat
  else '\\' :: 'U' :: hex 8 c.toNat

/-- A text between quotes, with what cannot be shown escaped. -/
def literal (s : String) : String :=
  let cs := s.toList
  let q := if '\'' ∈ cs ∧ '"' ∉ cs then '"' else '\''
  String.ofList (q :: cs.flatMap (literalChar q) ++ [q])

end SchemaCanvas.Text
