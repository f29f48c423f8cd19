import SchemaCanvas.Number.Rounding
import SchemaCanvas.Terminal.Markup
import SchemaCanvas.Terminal.Wrap

/-!
# Reports as tables

A table is drawn with box characters: a title centred above it, a header, and its rows. A column is
as wide as its widest cell and one blank on either side; when the table does not fit on a line of
the terminal, its widest columns are made narrower. Title, header and cells are markup.
-/

namespace SchemaCanvas.Report

/-- The header of a column and how its cells stand. -/
structure Column where
  header : String
  alignment : Terminal.Alignment
  deriving DecidableEq, Repr

/-- A table of texts. -/
structure Table where
  title : String
  columns : List Column
  rows : List (List String)

/-- Cells between a left, an inner and a right border. -/
def bordered (left inner right : Char) (cells : List (List Char)) : List Char :=
  left :: [inner].intercalate cells ++ [right]

/-- A horizontal line. -/
def rule (left fill inner right : Char) (widths : List Nat) : List Char :=
  bordered left inner right (widths.map fun width => Terminal.repeated width fill)

/-- Characters that end a line in a cell. -/
def endsLine (c : Char) : Bool :=
  c.toNat ∈ [0x0A, 0x0B, 0x0C, 0x0D, 0x1C, 0x1D, 0x1E, 0x85, 0x2028, 0x2029]

/-- The number of cells of the terminal that the longest line of a text takes. -/
def longestLine (cs : List Char) : Nat :=
  ((cs.splitOnP endsLine).map Text.width).foldl max 0

/-- A drawn column: its alignment, and its cells from the header on. -/
structure DrawnColumn where
  alignment : Terminal.Alignment
  cells : List (List Char)

/-- The width of a column with a blank on either side, at most `limit`. -/
def DrawnColumn.width (limit : Nat) (column : DrawnColumn) : Nat :=
  min ((column.cells.map longestLine).foldl max 0 + 2) limit

/-- The lines of one cell of a column that is `width` wide with a blank on either side. -/
def cellLines (alignment : Terminal.Alignment) (width : Nat) (cs : List Char) : List (List Char) :=
  (Terminal.paragraph alignment .ellipsis (width - 2) cs).map fun line => ' ' :: line ++ [' ']

/-- The lines of a row between borders; cells with fewer lines than others are filled up with
blanks. -/
def rowLines (border : Char) (widths : List Nat) (cells : List (List (List Char))) :
    List (List Char) :=
  let height := (cells.map List.length).foldl max 0
  (List.range height).map fun i =>
    bordered border border border
      ((widths.zip cells).map fun (width, lines) => lines.getD i (Terminal.repeated width ' '))

/-- Widths with a share of `excess` taken off those that are chosen, at most `most` off each. The
shares are rounded one after another; `chosen` is the number of chosen widths that are left. -/
def takeOff (most : Nat) (choose : Nat → Bool) :
    (excess chosen : Nat) → List Nat → List Nat
  | _, _, [] => []
  | excess, chosen, width :: widths =>
    if choose width then
      let share := min most (halfEven excess chosen)
      (width - share) :: takeOff most choose (excess - share) (chosen - 1) widths
    else width :: takeOff most choose excess chosen widths

/-- The number of cells that columns of the widths take together. -/
def total (widths : List Nat) : Nat :=
  widths.foldl (· + ·) 0

/-- Widths made narrower until they take at most `limit` in all: the widest ones come first, down to
the next widest one. `fuel` bounds the number of rounds. -/
def narrow (limit : Nat) : (fuel : Nat) → List Nat → List Nat
  | 0, widths => widths
  | fuel + 1, widths =>
    let excess := total widths - limit
    if excess = 0 then widths
    else
      let widest := widths.foldl max 0
      let next := (widths.filter (· ≠ widest)).foldl max 0
      narrow limit fuel (takeOff (min excess (widest - next)) (· = widest) excess
        (widths.count widest) widths)

namespace Table

/-- The columns of the table as they are drawn. -/
def drawColumns (t : Table) : Except Terminal.MarkupError (List DrawnColumn) :=
  t.columns.zipIdx.mapM fun (column, i) => do
    let cells ← (column.header :: t.rows.map (·.getD i "")).mapM Terminal.Markup.draw
    return ⟨column.alignment, cells⟩

/-- The widths of columns, which take no more than a line of the terminal with their borders. -/
def widths (columns : List DrawnColumn) : List Nat :=
  let limit := Terminal.lineWidth - (columns.length + 1)
  let widths := columns.map (·.width limit)
  narrow limit (total widths - limit) widths

/-- The lines of a row of cells, those with the index `i` of each column. -/
def row (border : Char) (widths : List Nat) (columns : List DrawnColumn) (i : Nat) :
    List (List Char) :=
  rowLines border widths ((widths.zip columns).map fun (width, column) =>
    cellLines column.alignment width (column.cells.getD i []))

/-- The lines of a table with a title and columns. -/
def lines (title : List Char) (columns : List DrawnColumn) (rows : Nat) : List (List Char) :=
  let widths := widths columns
  let top := rule '┏' '━' '┳' '┓' widths
  Terminal.paragraph .centre .fold top.length title ++
    top :: row '┃' widths columns 0 ++
    rule '┡' '━' '╇' '┩' widths ::
    (List.range rows).flatMap (fun i => row '│' widths columns (i + 1)) ++
    [rule '└' '─' '┴' '┘' widths]

/-- The table as text. -/
def text (t : Table) : Except Terminal.MarkupError String := do
  let columns ← t.drawColumns
  let title ← Terminal.Markup.draw t.title
  return String.ofList ((lines title columns t.rows.length).flatMap (· ++ ['\n']))

end Table

end SchemaCanvas.Report
