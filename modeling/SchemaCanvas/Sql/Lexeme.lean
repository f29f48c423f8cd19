import SchemaCanvas.Text.Blank
import SchemaCanvas.Text.Digit
import SchemaCanvas.Text.Quoted
import SchemaCanvas.Text.Search

/-!
# Lexemes of an SQL script

A script is cut into consecutive pieces, each a blank, a comment, a quoted form, a number, a word,
punctuation, an operator or a stray character. `Lexeme.next` takes the first piece off a text and
`Lexeme.scan` takes them all. Nothing is lost between the pieces (`Lexeme.text_next_append`,
`Lexeme.flatMap_text_scan`), and no piece is empty (`Lexeme.text_next_ne_nil`).

Comments are looked for before operators, quoted forms before words. A quoted form or block comment
that is never closed runs to the end of the script.
-/

namespace SchemaCanvas.Sql

/-- What kind of piece a lexeme is. -/
inductive Lexeme.Form
  | blank
  | lineComment
  | blockComment
  | quotedName
  | quotedString
  | dollarString
  | number
  | word
  | punctuation
  | operator
  | stray
  deriving DecidableEq, Repr

/-- A piece of an SQL script. -/
structure Lexeme where
  form : Lexeme.Form
  text : List Char
  deriving DecidableEq, Repr

/-- A character that may start a bare word. -/
def isWordStart (c : Char) : Bool :=
  c.isAlpha || c = '_'

/-- A character that may continue a bare word. -/
def isWordPart (c : Char) : Bool :=
  c.isAlphanum || c = '_' || c = '$'

/-- A character that may continue a number. -/
def isNumberPart (c : Char) : Bool :=
  Text.isDigit c || c = '.'

/-- The characters that are punctuation by themselves. -/
def punctuationMarks : List Char :=
  ['(', ')', ',', ';', '.', '[', ']']

/-- The operators of two characters. -/
def pairedOperators : List (Char × Char) :=
  [('<', '>'), ('<', '='), ('>', '='), ('!', '='), (':', ':')]

/-- The operators of one character. -/
def singleOperators : List Char :=
  ['<', '>', '=', '!', '+', '-', '*', '/', ':', '|', '%']

namespace Lexeme

/-- A piece that starts with `c` and goes on while `part` holds, with what follows it. -/
def run (form : Form) (part : Char → Bool) (c : Char) (cs : List Char) : Lexeme × List Char :=
  (⟨form, c :: cs.takeWhile part⟩, cs.dropWhile part)

/-- A piece of `opening` and what follows it up to the first `mark`, or to the end of the script
when there is no such mark. -/
def upTo (form : Form) (opening mark cs : List Char) : Lexeme × List Char :=
  match Text.findMark mark cs with
  | some (inside, rest) => (⟨form, opening ++ inside ++ mark⟩, rest)
  | none => (⟨form, opening ++ cs⟩, [])

/-- A piece between two quotes `q`, the first of which has been taken off. -/
def quoted (form : Form) (q : Char) (cs : List Char) : Lexeme × List Char :=
  match Text.closeQuote q cs with
  | some (inside, rest) => (⟨form, q :: inside ++ [q]⟩, rest)
  | none => (⟨form, q :: cs⟩, [])

/-- A piece that starts with a dollar sign: a string between two equal tags in dollar signs, or else
a stray dollar sign. -/
def dollar (cs : List Char) : Lexeme × List Char :=
  match cs.dropWhile isWordStart with
  | '$' :: body =>
    let tag := '$' :: cs.takeWhile isWordStart ++ ['$']
    upTo .dollarString tag tag body
  | _ => (⟨.stray, ['$']⟩, cs)

/-- A piece that is an operator of two characters, an operator of one, or else a stray character. -/
def symbol (c : Char) (cs : List Char) : Lexeme × List Char :=
  match cs with
  | d :: rest =>
    if (c, d) ∈ pairedOperators then (⟨.operator, [c, d]⟩, rest)
    else if c ∈ singleOperators then (⟨.operator, [c]⟩, cs)
    else (⟨.stray, [c]⟩, cs)
  | [] => if c ∈ singleOperators then (⟨.operator, [c]⟩, []) else (⟨.stray, [c]⟩, [])

/-- The first piece of the text that starts with `c`, and what follows the piece. -/
def next (c : Char) (cs : List Char) : Lexeme × List Char :=
  if Text.isBlank c then run .blank Text.isBlank c cs
  else if c = '-' ∧ cs.head? = some '-' then run .lineComment (· ≠ '\n') c cs
  else if c = '/' ∧ cs.head? = some '*' then upTo .blockComment ['/', '*'] ['*', '/'] cs.tail
  else if c = '"' then quoted .quotedName '"' cs
  else if c = '\'' then quoted .quotedString '\'' cs
  else if c = '$' then dollar cs
  else if Text.isDigit c then run .number isNumberPart c cs
  else if isWordStart c then run .word isWordPart c cs
  else if c ∈ punctuationMarks then (⟨.punctuation, [c]⟩, cs)
  else symbol c cs

/-- A run of characters and what is left after it are the text it was cut from. -/
theorem text_run_append (form : Form) (part : Char → Bool) (c : Char) (cs : List Char) :
    (run form part c cs).1.text ++ (run form part c cs).2 = c :: cs := by
  simp [run, List.takeWhile_append_dropWhile]

/-- A form that ends at a mark, or with the script, and what is left after it are the text that it
was cut from. -/
theorem text_upTo_append (form : Form) (opening mark cs : List Char) :
    (upTo form opening mark cs).1.text ++ (upTo form opening mark cs).2 = opening ++ cs := by
  rw [upTo]
  split
  · next h => simp [Text.findMark_eq_some h]
  · simp

/-- A quoted form and what is left after it are the text that it was cut from. -/
theorem text_quoted_append (form : Form) (q : Char) (cs : List Char) :
    (quoted form q cs).1.text ++ (quoted form q cs).2 = q :: cs := by
  rw [quoted]
  split
  · next h => simp [Text.closeQuote_eq_some h]
  · simp

/-- A string in dollar signs, or a stray dollar sign, and what is left after it are the text that it
was cut from. -/
theorem text_dollar_append (cs : List Char) : (dollar cs).1.text ++ (dollar cs).2 = '$' :: cs := by
  rw [dollar]
  split
  · next body h =>
    rw [text_upTo_append]
    simp only [List.cons_append, List.append_assoc, List.nil_append, ← h,
      List.takeWhile_append_dropWhile]
  · rfl

/-- An operator or a stray character and what is left after it are the text that it was cut from. -/
theorem text_symbol_append (c : Char) (cs : List Char) :
    (symbol c cs).1.text ++ (symbol c cs).2 = c :: cs := by
  unfold symbol
  repeat' split
  all_goals rfl

/-- The first piece and what follows it make up the text. -/
theorem text_next_append (c : Char) (cs : List Char) :
    (next c cs).1.text ++ (next c cs).2 = c :: cs := by
  rw [next]
  split
  · exact text_run_append ..
  split
  · exact text_run_append ..
  split
  · next h =>
    obtain ⟨rest, rfl⟩ := List.head?_eq_some_iff.1 h.2
    simp [text_upTo_append, h.1]
  split
  · next h => rw [text_quoted_append, h]
  split
  · next h => rw [text_quoted_append, h]
  split
  · next h => rw [text_dollar_append, h]
  split
  · exact text_run_append ..
  split
  · exact text_run_append ..
  split
  · rfl
  · exact text_symbol_append ..

/-- A piece has at least one character. -/
theorem text_next_ne_nil (c : Char) (cs : List Char) : (next c cs).1.text ≠ [] := by
  rw [next]
  repeat' split
  all_goals try simp [run]
  · rw [upTo]; split <;> simp
  · rw [quoted]; split <;> simp
  · rw [quoted]; split <;> simp
  · rw [dollar]
    split
    · rw [upTo]; split <;> simp
    · simp
  · unfold symbol; repeat' split
    all_goals simp

/-- A lexeme takes at least one character, so the scan of a text ends. -/
theorem length_next_lt (c : Char) (cs : List Char) : (next c cs).2.length < (c :: cs).length := by
  rw [← text_next_append c cs, List.length_append]
  have := List.length_pos_iff.2 (text_next_ne_nil c cs)
  omega

/-- All pieces of a text, in order. -/
def scan : List Char → List Lexeme
  | [] => []
  | c :: cs => (next c cs).1 :: scan (next c cs).2
termination_by cs => cs.length
decreasing_by exact length_next_lt c cs

/-- The pieces make up the text. -/
theorem flatMap_text_scan (cs : List Char) : (scan cs).flatMap text = cs := by
  fun_induction scan cs with
  | case1 => rfl
  | case2 c cs ih => rw [List.flatMap_cons, ih, text_next_append]

end Lexeme

end SchemaCanvas.Sql
