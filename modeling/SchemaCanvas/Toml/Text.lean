import SchemaCanvas.Number.Reader
import SchemaCanvas.Settings.Value

/-!
# Texts, keys and numbers of TOML

Each reader takes its form off the front of a text and answers with what it stands for and what
follows, or with nothing when the form is not well written.
-/

namespace SchemaCanvas.Toml

/-- Takes a value off the front of a text. -/
abbrev Reader (α : Type) := List Char → Option (α × List Char)

/-- Blanks within a line. -/
def isSpace (c : Char) : Bool :=
  c = ' ' || c = '\t'

/-- Blanks and line feeds. -/
def isSpaceOrLine (c : Char) : Bool :=
  isSpace c || c = '\n'

/-- Control characters other than the tab, which may stand nowhere in a line. -/
def isControl (c : Char) : Bool :=
  (c.toNat < 0x20 && c ≠ '\t') || c.toNat = 0x7F

/-- The text without blanks at its start. -/
def skipSpace (cs : List Char) : List Char :=
  cs.dropWhile isSpace

/-- The text without a comment at its start. A comment with a control character is not well
written. -/
def skipComment (cs : List Char) : Option (List Char) :=
  match cs with
  | '#' :: rest =>
    if (rest.takeWhile (· ≠ '\n')).any isControl then none else some (rest.dropWhile (· ≠ '\n'))
  | _ => some cs

/-- The value of a hexadecimal digit. -/
def hexValue? (c : Char) : Option Nat :=
  if c.isDigit then some (c.toNat - '0'.toNat)
  else if 'a' ≤ c ∧ c ≤ 'f' then some (c.toNat - 'a'.toNat + 10)
  else if 'A' ≤ c ∧ c ≤ 'F' then some (c.toNat - 'A'.toNat + 10)
  else none

/-- Takes a character given by so many hexadecimal digits. -/
def readCodePoint : (count : Nat) → (n : Nat) → Reader Char
  | 0, n, cs => if n.isValidChar then some (Char.ofNat n, cs) else none
  | _ + 1, _, [] => none
  | count + 1, n, c :: cs => (hexValue? c).bind fun digit => readCodePoint count (16 * n + digit) cs

/-- Takes what follows a backslash and stands for one character. -/
def readEscape : Reader Char
  | 'b' :: cs => some ('\x08', cs)
  | 't' :: cs => some ('\t', cs)
  | 'n' :: cs => some ('\n', cs)
  | 'f' :: cs => some ('\x0c', cs)
  | 'r' :: cs => some ('\r', cs)
  | '"' :: cs => some ('"', cs)
  | '\\' :: cs => some ('\\', cs)
  | 'u' :: cs => readCodePoint 4 0 cs
  | 'U' :: cs => readCodePoint 8 0 cs
  | _ => none

/-- Takes a text of one line with escapes, up to the closing quote; `fuel` bounds its length. -/
def readBasic : (fuel : Nat) → Reader (List Char)
  | 0, _ => none
  | _ + 1, [] => none
  | _ + 1, '"' :: cs => some ([], cs)
  | fuel + 1, '\\' :: cs => do
    let (c, cs) ← readEscape cs
    let (text, cs) ← readBasic fuel cs
    return (c :: text, cs)
  | fuel + 1, c :: cs =>
    if isControl c then none
    else (readBasic fuel cs).map fun cut => (c :: cut.1, cut.2)

/-- Takes a text of one line without escapes, up to the closing quote. -/
def readLiteral (cs : List Char) : Option (List Char × List Char) :=
  let text := cs.takeWhile (· ≠ '\'')
  match cs.dropWhile (· ≠ '\'') with
  | _ :: rest => if text.any isControl then none else some (text, rest)
  | [] => none

/-- What follows a backslash at the end of a line: the text up to the next visible character is left
out. -/
def skipLineEnd (cs : List Char) : Option (List Char) :=
  match skipSpace cs with
  | '\n' :: rest => some (rest.dropWhile isSpaceOrLine)
  | _ => none

/-- The end of a text of several lines, after its three closing quotes `q`: up to two more quotes
belong to the text. -/
def extraQuotes (q : Char) (cs : List Char) : List Char × List Char :=
  match cs with
  | a :: b :: rest =>
    if a = q ∧ b = q then ([q, q], rest) else if a = q then ([q], b :: rest) else ([], cs)
  | [a] => if a = q then ([q], []) else ([], cs)
  | [] => ([], [])

/-- Takes a text of several lines between three quotes `q` each, with escapes if `escapes`; `fuel`
bounds its length. -/
def readLines (q : Char) (escapes : Bool) : (fuel : Nat) → Reader (List Char)
  | 0, _ => none
  | _ + 1, [] => none
  | fuel + 1, c :: cs =>
    if c = q ∧ [q, q].isPrefixOf cs then some (extraQuotes q (cs.drop 2))
    else if escapes ∧ c = '\\' then
      match readEscape cs with
      | some (d, cs) => (readLines q escapes fuel cs).map fun cut => (d :: cut.1, cut.2)
      | none => (skipLineEnd cs).bind (readLines q escapes fuel)
    else if isControl c ∧ c ≠ '\n' then none
    else (readLines q escapes fuel cs).map fun cut => (c :: cut.1, cut.2)

/-- The text without a line feed at its start. -/
def skipLineFeed : List Char → List Char
  | '\n' :: cs => cs
  | cs => cs

/-- Takes a text in quotes, of one line or of several. -/
def readText : Reader String
  | '"' :: '"' :: '"' :: cs =>
    (readLines '"' true (cs.length + 1) (skipLineFeed cs)).map fun cut =>
      (String.ofList cut.1, cut.2)
  | '\'' :: '\'' :: '\'' :: cs =>
    (readLines '\'' false (cs.length + 1) (skipLineFeed cs)).map fun cut =>
      (String.ofList cut.1, cut.2)
  | '"' :: cs => (readBasic (cs.length + 1) cs).map fun cut => (String.ofList cut.1, cut.2)
  | '\'' :: cs => (readLiteral cs).map fun cut => (String.ofList cut.1, cut.2)
  | _ => none

/-- A character that may stand in a bare key. -/
def isKeyPart (c : Char) : Bool :=
  c.isAlphanum || c = '-' || c = '_'

/-- Takes one part of a key. -/
def readKeyPart (cs : List Char) : Option (String × List Char) :=
  match cs with
  | '"' :: rest => (readBasic (rest.length + 1) rest).map fun cut => (String.ofList cut.1, cut.2)
  | '\'' :: rest => (readLiteral rest).map fun cut => (String.ofList cut.1, cut.2)
  | _ =>
    if (cs.takeWhile isKeyPart).isEmpty then none
    else some (String.ofList (cs.takeWhile isKeyPart), cs.dropWhile isKeyPart)

/-- Takes a dotted key, with blanks around its points; `fuel` bounds the number of its parts. -/
def readKey : (fuel : Nat) → Reader (List String)
  | 0, _ => none
  | fuel + 1, cs => do
    let (part, cs) ← readKeyPart cs
    match skipSpace cs with
    | '.' :: cs =>
      let (parts, cs) ← readKey fuel (skipSpace cs)
      return (part :: parts, cs)
    | cs => return ([part], cs)

/-- Takes digits of a kind, with single underscores between them; the answer holds the digits. -/
def readDigits (isDigit : Char → Bool) : List Char → List Char × List Char
  | '_' :: c :: cs =>
    if isDigit c then
      let more := readDigits isDigit cs
      (c :: more.1, more.2)
    else ([], '_' :: c :: cs)
  | c :: cs =>
    if isDigit c then
      let more := readDigits isDigit cs
      (c :: more.1, more.2)
    else ([], c :: cs)
  | [] => ([], [])

/-- Takes digits of a kind, the first of which may not be an underscore. -/
def readDigits? (isDigit : Char → Bool) (cs : List Char) : Option (List Char × List Char) :=
  if cs.head?.any isDigit then some (readDigits isDigit cs) else none

/-- The number that digits write in a base. -/
def inBase (base : Nat) (digits : List Char) : Nat :=
  digits.foldl (fun n c => base * n + (hexValue? c).getD 0) 0

/-- Takes a whole number in a base other than ten. -/
def readBased : Reader Int
  | '0' :: 'x' :: cs =>
    (readDigits? (fun c => (hexValue? c).isSome) cs).map fun cut => ((inBase 16 cut.1 : Nat), cut.2)
  | '0' :: 'o' :: cs =>
    (readDigits? (fun c => '0' ≤ c && c ≤ '7') cs).map fun cut => ((inBase 8 cut.1 : Nat), cut.2)
  | '0' :: 'b' :: cs =>
    (readDigits? (fun c => c = '0' || c = '1') cs).map fun cut => ((inBase 2 cut.1 : Nat), cut.2)
  | _ => none

/-- Takes a fraction, if there is one: its digits. -/
def readFraction (cs : List Char) : List Char × List Char :=
  match cs with
  | '.' :: rest => (readDigits? Char.isDigit rest).getD ([], cs)
  | _ => ([], cs)

/-- Takes an exponent, if there is one. -/
def readExponent (cs : List Char) : Option Int × List Char :=
  match cs with
  | c :: rest =>
    if c = 'e' ∨ c = 'E' then
      let (negative, body) := Number.sign rest
      match readDigits? Char.isDigit body with
      | some (digits, after) =>
        let size : Int := (inBase 10 digits : Nat)
        (some (if negative then -size else size), after)
      | none => (none, cs)
    else (none, cs)
  | [] => (none, [])

/-- Takes a decimal number; one that does not start with a zero has all its digits. -/
def readDecimal (cs : List Char) : Option (Number × List Char) :=
  let (negative, body) := Number.sign cs
  let whole? := match body with
    | '0' :: rest => some (['0'], rest)
    | _ => readDigits? Char.isDigit body
  whole?.map fun whole =>
    let fraction := readFraction whole.2
    let exponent := readExponent fraction.2
    if fraction.1.isEmpty ∧ exponent.1.isNone then
      let size : Int := (inBase 10 whole.1 : Nat)
      (.whole (if negative then -size else size), whole.2)
    else
      (.real (Decimal.value negative (inBase 10 (whole.1 ++ fraction.1))
        (exponent.1.getD 0 - fraction.1.length)), exponent.2)

/-- Takes the name of an infinity or of what is no number. -/
def readNamed (cs : List Char) : Option (Number × List Char) :=
  let (negative, body) := Number.sign cs
  match body with
  | 'i' :: 'n' :: 'f' :: rest => some (.real (.infinite negative), rest)
  | 'n' :: 'a' :: 'n' :: rest => some (.real .nan, rest)
  | _ => none

/-- Takes a number. -/
def readNumber (cs : List Char) : Option (Number × List Char) :=
  ((readBased cs).map fun cut => (.whole cut.1, cut.2)).or
    ((readDecimal cs).or (readNamed cs))

end SchemaCanvas.Toml
