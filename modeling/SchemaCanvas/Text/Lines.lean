/-!
# Lines and segments

A text is cut at every occurrence of one character: `Text.splitOn` keeps every segment, the empty
ones included, so that joining the segments with the separator gives the text back
(`Text.join_splitOn`). Lines are the segments between line feeds.
-/

namespace SchemaCanvas.Text

/-- The segments of a text between the occurrences of `sep`. -/
def splitOn (sep : Char) : List Char → List (List Char)
  | [] => [[]]
  | c :: cs =>
    if c = sep then [] :: splitOn sep cs
    else match splitOn sep cs with
      | [] => [[c]]
      | segment :: segments => (c :: segment) :: segments

/-- The segments one after another, with `sep` between them. -/
def join (sep : Char) : List (List Char) → List Char
  | [] => []
  | [segment] => segment
  | segment :: segments => segment ++ sep :: join sep segments

/-- There is always at least one segment. -/
theorem splitOn_ne_nil (sep : Char) (cs : List Char) : splitOn sep cs ≠ [] := by
  induction cs with
  | nil => simp [splitOn]
  | cons c cs ih =>
    rw [splitOn]
    split
    · simp
    · split <;> simp

/-- The segments with the separator put back between them are the text. -/
theorem join_splitOn (sep : Char) (cs : List Char) : join sep (splitOn sep cs) = cs := by
  induction cs with
  | nil => rfl
  | cons c cs ih =>
    rw [splitOn]
    split
    · next h =>
      subst h
      cases hs : splitOn c cs with
      | nil => exact absurd hs (splitOn_ne_nil c cs)
      | cons segment segments => rw [hs] at ih; simp [join, ih]
    · cases hs : splitOn sep cs with
      | nil => exact absurd hs (splitOn_ne_nil sep cs)
      | cons segment segments =>
        rw [hs] at ih
        cases segments with
        | nil => simpa [join] using ih
        | cons next segments => simpa [join] using ih

/-- The lines of a text: its segments between line feeds. -/
def lines (cs : List Char) : List (List Char) :=
  splitOn '\n' cs

/-- The number of line feeds in a text. -/
def lineFeeds (cs : List Char) : Nat :=
  cs.count '\n'

/-- What stands before the first `sep`, and what stands after it; a text without `sep` has nothing
after it. -/
def cutAt (sep : Char) (cs : List Char) : List Char × List Char :=
  (cs.takeWhile (· ≠ sep), (cs.dropWhile (· ≠ sep)).drop 1)

end SchemaCanvas.Text
