import SchemaCanvas.Text.Range

/-!
# Blank characters

The blanks of Unicode: the ASCII white space and information separators, the next-line control and
the separators. `Text.strip` removes blanks from both ends of a text.
-/

namespace SchemaCanvas.Text

/-- The blanks of Unicode. -/
def blankRanges : Ranges :=
  [(0x0009, 0x000D), (0x001C, 0x0020), (0x0085, 0x0085), (0x00A0, 0x00A0), (0x1680, 0x1680),
   (0x2000, 0x200A), (0x2028, 0x2029), (0x202F, 0x202F), (0x205F, 0x205F), (0x3000, 0x3000)]

/-- Whether `c` is a blank. -/
def isBlank (c : Char) : Bool :=
  blankRanges.holds c

/-- The text without the blanks at its start. -/
def stripStart (cs : List Char) : List Char :=
  cs.dropWhile isBlank

/-- The text without the blanks at its end. -/
def stripEnd (cs : List Char) : List Char :=
  (cs.reverse.dropWhile isBlank).reverse

/-- The text without the blanks at its two ends. -/
def strip (cs : List Char) : List Char :=
  stripEnd (stripStart cs)

/-- The words of a text: what stands between blanks. -/
def words (cs : List Char) : List (List Char) :=
  (cs.splitBy fun a b => isBlank a == isBlank b).filter fun run => !run.any isBlank

end SchemaCanvas.Text
