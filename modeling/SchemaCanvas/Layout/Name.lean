import SchemaCanvas.Text.Blank
import SchemaCanvas.Text.Lines
import SchemaCanvas.Text.Quoted

/-!
# Names in a layout block

A name of a schema or table is written bare when it can be, and otherwise between double quotes with
its own quotes written twice. A qualified name is the two parts with a point between them.
`Name.read_write` says that writing loses nothing.
-/

namespace SchemaCanvas.Name

/-- A character that may stand in a bare name. -/
def isBare (c : Char) : Bool :=
  !(Text.isBlank c || c = '.' || c = '"' || c = '*' || c = '[' || c = ']')

/-- The name as it is written: bare when it can be, and else in double quotes. -/
def write (name : List Char) : List Char :=
  if name ≠ [] ∧ name.all isBare then name else Text.quote '"' name

/-- The name that a written one stands for. The first and last characters of a text that starts with
a quote are taken for its quotes. -/
def read : List Char → List Char
  | [] => []
  | c :: cs => if c = '"' then Text.collapse '"' cs.dropLast else c :: cs

/-- The name as it is written. -/
def quote (name : String) : String :=
  String.ofList (write name.toList)

/-- The name that a written one stands for. -/
def unquote (text : String) : String :=
  String.ofList (read text.toList)

/-- A qualified name as it is written: its schema's part, a point, and its table's part. -/
def writeQualified (name : List Char) : List Char :=
  let parts := Text.cutAt '.' name
  write parts.1 ++ '.' :: write parts.2

/-- A qualified name as it is written. -/
def quoteQualified (name : String) : String :=
  String.ofList (writeQualified name.toList)

/-- Takes a written name off the front of a text: what is written and what follows it. -/
def scan (cs : List Char) : Option (List Char × List Char) :=
  match cs with
  | [] => none
  | c :: rest =>
    if c = '"' then
      (Text.closeQuote '"' rest).map fun cut => (c :: cut.1 ++ ['"'], cut.2)
    else if isBare c then some (cs.takeWhile isBare, cs.dropWhile isBare)
    else none

/-- A written name is read back as it was, whether or not it needs quotes. -/
theorem read_write (name : List Char) : read (write name) = name := by
  rw [write]
  split
  · next h =>
    cases name with
    | nil => rfl
    | cons c cs =>
      have hc : isBare c = true := (List.all_cons ▸ h.2 |> Bool.and_eq_true_iff.1).1
      have hq : c ≠ '"' := by
        rintro rfl
        revert hc
        decide
      rw [read, if_neg hq]
  · rw [Text.quote, List.cons_append, read, if_pos rfl, List.dropLast_concat, Text.collapse_double]

end SchemaCanvas.Name
