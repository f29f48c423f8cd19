import SchemaCanvas.Toml.Document
import SchemaCanvas.Toml.Text

/-!
# Reading TOML documents

A document is read line by line: comments, headers, and values under keys. Nothing is recovered from
a document that is not well written, or that holds a whole number with too many decimal digits.
-/

namespace SchemaCanvas.Toml

/-- Why a document cannot be read. -/
inductive Fault
  /-- The document is not well written. -/
  | malformed
  /-- A whole number has too many decimal digits. -/
  | tooManyDigits (count : Nat)
  deriving DecidableEq, Repr

/-- What is there, or the fault that the document is not well written. -/
def orMalformed {α : Type} : Option α → Except Fault α
  | some a => .ok a
  | none => .error .malformed

/-- Takes a value off the front of a text, or says why that is not possible. -/
abbrev Taking (α : Type) := List Char → Except Fault (α × List Char)

/-- Takes a number. Only decimal whole numbers have a limit to their digits. -/
def takeNumber : Taking Number := fun cs => do
  let (n, rest) ← orMalformed (readNumber cs)
  let count := match readBased cs, n with
    | none, .whole n => Decimal.length n.natAbs
    | _, _ => 0
  if Number.digitLimit < count then .error (.tooManyDigits count) else return (n, rest)

/-- The text without blanks, line ends and comments at its start; `fuel` bounds the number of
comments. -/
def skipGap : (fuel : Nat) → List Char → Option (List Char)
  | 0, cs => some cs
  | fuel + 1, cs =>
    match cs.dropWhile isSpaceOrLine with
    | '#' :: rest => (skipComment ('#' :: rest)).bind (skipGap fuel)
    | rest => some rest

mutual

/-- Takes a value; `fuel` bounds the nesting and the number of values. -/
def takeValue : (fuel : Nat) → Taking Value
  | 0, _ => .error .malformed
  | fuel + 1, cs =>
    match cs with
    | '"' :: _ | '\'' :: _ => (orMalformed (readText cs)).map fun cut => (.text cut.1, cut.2)
    | 't' :: 'r' :: 'u' :: 'e' :: rest => .ok (.truth true, rest)
    | 'f' :: 'a' :: 'l' :: 's' :: 'e' :: rest => .ok (.truth false, rest)
    | '[' :: rest => do
      let rest ← orMalformed (skipGap rest.length rest)
      match rest with
      | ']' :: rest => return (.list [], rest)
      | _ =>
        let (values, rest) ← takeValues fuel rest
        return (.list values, rest)
    | '\x7b' :: rest =>
      match skipSpace rest with
      | '\x7d' :: rest => .ok (.table [], rest)
      | rest => takeInline fuel [] [] rest
    | _ => (takeNumber cs).map fun cut => (.number cut.1, cut.2)

/-- Takes the values of a list up to its closing bracket. -/
def takeValues : (fuel : Nat) → Taking (List Value)
  | 0, _ => .error .malformed
  | fuel + 1, cs => do
    let (value, rest) ← takeValue fuel cs
    let rest ← orMalformed (skipGap rest.length rest)
    match rest with
    | ']' :: rest => return ([value], rest)
    | ',' :: rest =>
      let rest ← orMalformed (skipGap rest.length rest)
      match rest with
      | ']' :: rest => return ([value], rest)
      | _ =>
        let (values, rest) ← takeValues fuel rest
        return (value :: values, rest)
    | _ => .error .malformed

/-- Takes the items of an inline table up to its closing brace. -/
def takeInline : (fuel : Nat) → (inline : List Key) → (items : Items) → Taking Value
  | 0, _, _, _ => .error .malformed
  | fuel + 1, inline, items, cs => do
    let (key, rest) ← orMalformed (readKey (cs.length + 1) cs)
    match rest with
    | '=' :: rest =>
      let (value, rest) ← takeValue fuel (skipSpace rest)
      let items ← orMalformed (assignInline inline key value items)
      match skipSpace rest with
      | '\x7d' :: rest => return (.table items, rest)
      | ',' :: rest =>
        takeInline fuel (if isCompound value then key :: inline else inline) items (skipSpace rest)
      | _ => .error .malformed
    | _ => .error .malformed

end

/-- Takes a header, from after its first bracket on. -/
def readHeader (d : Document) (cs : List Char) : Option (Document × List Char) :=
  match cs with
  | '[' :: cs => do
    let (key, rest) ← readKey (cs.length + 1) (skipSpace cs)
    let d ← d.settle.openListItem key
    match rest with
    | ']' :: ']' :: rest => return (d, rest)
    | _ => none
  | _ => do
    let (key, rest) ← readKey (cs.length + 1) (skipSpace cs)
    let d ← d.settle.openTable key
    match rest with
    | ']' :: rest => return (d, rest)
    | _ => none

/-- Takes a key and its value. -/
def takeAssignment (d : Document) : Taking Document := fun cs => do
  let (key, rest) ← orMalformed (readKey (cs.length + 1) cs)
  match rest with
  | '=' :: rest =>
    let (value, rest) ← takeValue (rest.length + 1) (skipSpace rest)
    let d ← orMalformed (d.assign key value)
    return (d, rest)
  | _ => .error .malformed

/-- Takes what a line says, if it says anything. -/
def takeStatement (d : Document) : Taking Document := fun cs =>
  match cs with
  | '[' :: rest => orMalformed (readHeader d rest)
  | '#' :: _ => .ok (d, cs)
  | _ => takeAssignment d cs

/-- The document after the lines of a text; `fuel` bounds their number. -/
def readLinesOf : (fuel : Nat) → Document → List Char → Except Fault Document
  | 0, d, _ => .ok d
  | fuel + 1, d, cs =>
    match skipSpace cs with
    | [] => .ok d
    | '\n' :: rest => readLinesOf fuel d rest
    | rest => do
      let (d, rest) ← takeStatement d rest
      let rest ← orMalformed (skipComment (skipSpace rest))
      match rest with
      | [] => return d
      | '\n' :: rest => readLinesOf fuel d rest
      | _ => .error .malformed

/-- The text with a single line feed for every line end of two characters. -/
def plainLines : List Char → List Char
  | '\r' :: '\n' :: cs => '\n' :: plainLines cs
  | c :: cs => c :: plainLines cs
  | [] => []

/-- The items of a document. -/
def read (text : String) : Except Fault Items :=
  let cs := plainLines text.toList
  (readLinesOf (cs.length + 1) .empty cs).map Document.items

end SchemaCanvas.Toml
