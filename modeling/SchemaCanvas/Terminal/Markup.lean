import SchemaCanvas.Terminal.Pictograph
import SchemaCanvas.Terminal.Style

/-!
# Markup

A text for the terminal can hold tags: words in brackets that start with a small letter or one of
`#`, `/` and `@`. A tag opens a style, or closes one when it starts with a slash. Tags are not
drawn, and colours are not shown; what remains of them is that every closing tag needs a tag to
close. A backslash before a tag makes it plain text, and a backslash before that one makes the first
one plain text. Outside tags, names between colons stand for pictographs.

`Markup.escape` writes a text such that none of it is a tag.
-/

namespace SchemaCanvas.Terminal

/-- Why markup cannot be drawn. -/
inductive MarkupError
  /-- A closing tag without a name stands where no tag is open. -/
  | nothingToClose (position : Nat)
  /-- A closing tag names a style that is not open. -/
  | notOpen (tag : String) (position : Nat)
  /-- A component of a colour is empty. -/
  | emptyComponent
  deriving DecidableEq, Repr

/-- The wording of a cause. -/
def MarkupError.message : MarkupError → String
  | .nothingToClose position =>
    "closing tag '[/]' at position " ++ toString position ++ " has nothing to close"
  | .notOpen tag position =>
    "closing tag '[" ++ tag ++ "]' at position " ++ toString position ++
      " doesn't match any open tag"
  | .emptyComponent => "invalid literal for int() with base 10: ''"

namespace Markup

/-- A piece of markup. -/
inductive Piece
  | plain (text : List Char)
  /-- What stands between brackets like those of a tag, after a number of backslashes, and where the
  opening bracket stands. -/
  | bracketed (backslashes : Nat) (body : List Char) (position : Nat)
  deriving DecidableEq, Repr

/-- The text of a piece in brackets after a number of backslashes. -/
def withBackslashes (backslashes : Nat) (body : List Char) : List Char :=
  List.replicate backslashes '\\' ++ '[' :: body ++ [']']

/-- The text that a piece has been read from. -/
def Piece.source : Piece → List Char
  | .plain text => text
  | .bracketed backslashes body _ => withBackslashes backslashes body

/-- A character that starts a tag. -/
def startsTag (c : Char) : Bool :=
  ('a' ≤ c && c ≤ 'z') || c = '#' || c = '/' || c = '@'

/-- What has been read of a tag that has not been closed, backwards. -/
def unclosed (opened : Option (List Char)) : List Char :=
  opened.elim [] (· ++ ['['])

/-- The pieces of a text from a position on. Since the last piece `before` has been read as text and
then the body `opened` of what may be a tag, both backwards. -/
def pieces (position : Nat) (before : List Char) (opened : Option (List Char)) :
    List Char → List Piece
  | [] => [.plain (unclosed opened ++ before).reverse]
  | c :: cs =>
    if c = '[' then pieces (position + 1) (unclosed opened ++ before) (some []) cs
    else match opened with
      | none => pieces (position + 1) (c :: before) none cs
      | some [] =>
        if startsTag c then pieces (position + 1) before (some [c]) cs
        else pieces (position + 1) (c :: '[' :: before) none cs
      | some body =>
        if c = ']' then
          .plain (before.dropWhile (· = '\\')).reverse ::
            .bracketed (before.takeWhile (· = '\\')).length body.reverse
              (position - body.length - 1) ::
            pieces (position + 1) [] none cs
        else pieces (position + 1) before (some (c :: body)) cs

/-- The pieces of a text. -/
def ofText (cs : List Char) : List Piece :=
  pieces 0 [] none cs

/-- The backslashes that stand before the reading position, `before` being what has been read,
backwards. -/
theorem reverse_split_backslashes (before : List Char) :
    (before.dropWhile (· = '\\')).reverse ++
      List.replicate (before.takeWhile (· = '\\')).length '\\' = before.reverse := by
  have h : List.replicate (before.takeWhile (· = '\\')).length '\\' =
      (before.takeWhile (· = '\\')).reverse := by
    rw [← List.reverse_replicate]
    congr 1
    exact (List.eq_replicate_of_mem fun c hc => by
      simpa using List.all_eq_true.1 List.all_takeWhile c hc).symm
  rw [h, ← List.reverse_append, List.takeWhile_append_dropWhile]

/-- The sources of the pieces of a text, put together, are the text. -/
theorem flatMap_source_pieces (position : Nat) (before : List Char) (opened : Option (List Char))
    (cs : List Char) :
    (pieces position before opened cs).flatMap Piece.source =
      (unclosed opened ++ before).reverse ++ cs := by
  fun_induction pieces position before opened cs with
  | case1 => simp [Piece.source]
  | case2 _ _ _ _ ih => simp only [ih]; simp [unclosed]
  | case3 _ _ _ _ _ ih => simp [ih, unclosed]
  | case4 _ _ _ _ _ _ ih => simp [ih, unclosed]
  | case5 _ _ _ _ _ _ ih => simp [ih, unclosed]
  | case6 _ before _ body _ _ ih =>
    simp only [List.flatMap_cons, Piece.source, ih, withBackslashes, List.append_assoc]
    rw [← List.append_assoc, reverse_split_backslashes]
    simp [unclosed]
  | case7 _ _ _ _ _ _ _ _ ih => simp [ih, unclosed]

/-- The pieces of a text make it up. -/
theorem flatMap_source_ofText (cs : List Char) : (ofText cs).flatMap Piece.source = cs := by
  simp [ofText, flatMap_source_pieces, unclosed]

/-- The text without a backslash before an opening bracket. -/
def unescape : List Char → List Char
  | '\\' :: '[' :: cs => '[' :: unescape cs
  | c :: cs => c :: unescape cs
  | [] => []

/-- Control characters that are not shown. -/
def isUnshown (c : Char) : Bool :=
  c.toNat ∈ [7, 8, 11, 12, 13]

/-- Plain text as it is shown. -/
def shown (cs : List Char) : List Char :=
  (withPictographs (unescape cs)).filter (!isUnshown ·)

/-- The styles that are open after a tag, the last one first; styles are given in normal form. -/
def afterTag (styles : List (List Char)) (body : List Char) (position : Nat) :
    Except MarkupError (List (List Char)) :=
  let normal (name : List Char) : Except MarkupError (List Char) :=
    (Style.normalForm? name).elim (.error .emptyComponent) .ok
  match (Text.cutAt '=' body).1 with
  | '/' :: name =>
    if Text.strip name = [] then
      match styles with
      | _ :: styles => .ok styles
      | [] => .error (.nothingToClose position)
    else do
      let style ← normal (Text.strip name)
      if styles.contains style then return styles.erase style
      else .error (.notOpen (String.ofList body) position)
  | name => return (← normal name) :: styles

/-- What is drawn of the pieces after tags that have left styles open. Of the backslashes before a
tag every second one is drawn, and one that is left over makes the tag plain text. -/
def drawPieces (styles : List (List Char)) : List Piece → Except MarkupError (List Char)
  | [] => .ok []
  | .plain text :: more => do return shown text ++ (← drawPieces styles more)
  | .bracketed backslashes body position :: more => do
    let drawn := List.replicate (backslashes / 2) '\\'
    if backslashes % 2 = 0 then
      return drawn ++ (← drawPieces (← afterTag styles body position) more)
    else return drawn ++ shown (withBackslashes 0 body) ++ (← drawPieces styles more)

/-- What is drawn of a text. -/
def draw (text : String) : Except MarkupError (List Char) :=
  drawPieces [] (ofText text.toList)

/-- The text of a piece, with backslashes such that it is drawn as it is. -/
def Piece.escaped : Piece → List Char
  | .plain text => text
  | .bracketed backslashes body _ => withBackslashes (2 * backslashes + 1) body

/-- The text with backslashes before everything in it that looks like a tag. A single backslash at
its end is written twice, so that it is none before what may follow. -/
def escape (text : String) : String :=
  let cs := (ofText text.toList).flatMap Piece.escaped
  let atEnd := (cs.reverse.takeWhile (· = '\\')).length
  String.ofList (if atEnd = 1 then cs ++ ['\\'] else cs)

end Markup

end SchemaCanvas.Terminal
