import SchemaCanvas.Text.Blank
import SchemaCanvas.Text.Lines
import SchemaCanvas.Text.Width

/-!
# Lines of a width

A text is put on lines that take no more than a number of cells. Lines are broken between words; a
word that is too long for a line is folded or, where that is not allowed, cut with an ellipsis.
-/

namespace SchemaCanvas.Terminal

/-- What happens to a word that is too long for a line. -/
inductive Overflow
  | fold
  | ellipsis
  deriving DecidableEq, Repr

/-- Where a line stands in its width. -/
inductive Alignment
  | left
  | right
  | centre
  deriving DecidableEq, Repr

/-- So many of a character. -/
def repeated (n : Nat) (c : Char) : List Char :=
  List.replicate n c

/-- The text of a line with blanks in place of its tabs, each up to the next multiple of eight
cells. -/
def expandTabs : (used : Nat) → List Char → List Char
  | _, [] => []
  | used, c :: cs =>
    if c = '\t' then
      let size := 8 - used % 8
      repeated size ' ' ++ expandTabs (used + size) cs
    else c :: expandTabs (used + Text.cells c) cs

/-- The words of a text, each with the blanks that follow it; the first one also has those before
it. -/
def spacedWords (cs : List Char) : List (List Char) :=
  match cs.splitBy fun a b => !(Text.isBlank a && !Text.isBlank b) with
  | first :: second :: more =>
    if first.all Text.isBlank then (first ++ second) :: more else first :: second :: more
  | runs => runs

/-- A word cut into pieces of a width, after a piece of which `line` has been read, backwards, that
takes `used` cells. -/
def chop (width : Nat) (line : List Char) (used : Nat) : List Char → List (List Char)
  | [] => [line.reverse]
  | c :: cs =>
    let size := Text.cells c
    if width < used + size then line.reverse :: chop width [c] size cs
    else chop width (c :: line) (used + size) cs

/-- The pieces of a word make it up. -/
theorem flatten_chop (width : Nat) (line : List Char) (used : Nat) (cs : List Char) :
    (chop width line used cs).flatten = line.reverse ++ cs := by
  induction cs generalizing line used with
  | nil => simp [chop]
  | cons c cs ih =>
    rw [chop]
    split <;> simp [ih]

/-- Words put on lines of a width, of which `line` has been filled and takes `used` cells. -/
def fill (overflow : Overflow) (width : Nat) (line : List Char) (used : Nat) :
    List (List Char) → List (List Char)
  | [] => [line]
  | word :: words =>
    let size := Text.width (Text.stripEnd word)
    if used + size ≤ width then
      fill overflow width (line ++ word) (used + Text.width word) words
    else
      let before := if line.isEmpty then [] else [line]
      let pieces := if overflow = .fold ∧ width < size then chop width [] 0 word else [word]
      let last := pieces.getLastD []
      before ++ pieces.dropLast ++ fill overflow width last (Text.width last) words

/-- There is at least one line, which may be empty. -/
theorem chop_ne_nil (width : Nat) (line : List Char) (used : Nat) (cs : List Char) :
    chop width line used cs ≠ [] := by
  induction cs generalizing line used with
  | nil => simp [chop]
  | cons c cs ih =>
    rw [chop]
    split
    · simp
    · exact ih _ _

/-- Filling lines loses nothing: the lines one after another are the words. -/
theorem flatten_fill (overflow : Overflow) (width : Nat) (line : List Char) (used : Nat)
    (words : List (List Char)) :
    (fill overflow width line used words).flatten = line ++ words.flatten := by
  induction words generalizing line used with
  | nil => simp [fill]
  | cons word words ih =>
    rw [fill]
    split
    · simp [ih]
    · have hbefore : (if line.isEmpty then [] else [line]).flatten = line := by
        cases line <;> simp
      have hpieces (pieces : List (List Char)) (h : pieces ≠ []) :
          pieces.dropLast.flatten ++ pieces.getLastD [] = pieces.flatten := by
        conv => rhs; rw [← List.dropLast_concat_getLast h]
        simp [List.getLastD_eq_getLast?, List.getLast?_eq_some_getLast h]
      simp only [List.flatten_append, ih, hbefore, ← List.append_assoc, List.flatten_cons]
      rw [List.append_assoc line, hpieces]
      · split <;> simp [flatten_chop]
      · split <;> simp [chop_ne_nil]

/-- The line without those blanks at its end that lie past so many characters. -/
def cropEnd (size : Nat) (line : List Char) : List Char :=
  let blanks := (line.reverse.takeWhile Text.isBlank).length
  line.take (line.length - min blanks (line.length - size))

/-- The start of a line that takes `total` cells, looked for by halving between two lengths; a blank
stands in for half of a character. `fuel` bounds the number of steps. -/
def startOf (total : Nat) (line : List Char) : (fuel low high : Nat) → List Char
  | 0, _, _ => []
  | fuel + 1, low, high =>
    let middle := (low + high) / 2
    let start := line.take (middle + 1)
    let size := Text.width start
    if size = total + 1 ∧ start.getLast?.any (Text.cells · = 2) then start.dropLast ++ [' ']
    else if size = total then start
    else if total < size then startOf total line fuel low middle
    else startOf total line fuel middle high

/-- The line cut off after so many cells. -/
def cut (total : Nat) (line : List Char) : List Char :=
  if total = 0 then [] else startOf total line line.length 0 line.length

/-- The line, cut off if it takes more cells than its width. -/
def truncate (overflow : Overflow) (width : Nat) (line : List Char) : List Char :=
  if Text.width line ≤ width then line
  else match overflow with
    | .fold => cut width line
    | .ellipsis => cut (width - 1) line ++ ['…']

/-- The lines of a text. -/
def wrap (overflow : Overflow) (width : Nat) (cs : List Char) : List (List Char) :=
  (Text.lines cs).flatMap fun line =>
    (fill overflow width [] 0 (spacedWords (expandTabs 0 line))).map (cropEnd width)

/-- A line in its width. -/
def align (alignment : Alignment) (overflow : Overflow) (width : Nat) (line : List Char) :
    List Char :=
  let line := truncate overflow width (if alignment = .left then line else Text.stripEnd line)
  let free := width - Text.width line
  match alignment with
  | .left => line ++ repeated free ' '
  | .right => repeated free ' ' ++ line
  | .centre => repeated (free / 2) ' ' ++ line ++ repeated (free - free / 2) ' '

/-- The lines of a text, each in its width. -/
def paragraph (alignment : Alignment) (overflow : Overflow) (width : Nat) (cs : List Char) :
    List (List Char) :=
  (wrap overflow width cs).map (align alignment overflow width)

/-- The number of cells of a line of the terminal. -/
def lineWidth : Nat :=
  1000

/-- The text as it is printed: on lines that are no longer than those of the terminal. -/
def printed (cs : List Char) : List Char :=
  (wrap .fold lineWidth cs).flatMap fun line => truncate .fold lineWidth line ++ ['\n']

end SchemaCanvas.Terminal
