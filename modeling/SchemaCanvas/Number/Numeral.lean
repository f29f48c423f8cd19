import SchemaCanvas.Number.Reader
import SchemaCanvas.Text.Blank

/-!
# Numerals of many forms

Beside plain digits, a numeral can have single underscores between its digits, a prefix that chooses
another base, or blanks around it. `Number.readGrouped?` reads whole numbers and rounds what has a
point; `Number.isNumeral` recognises everything that a person would call a number, up to complex
ones.
-/

namespace SchemaCanvas.Number

/-- The text without its underscores, if each of them stands between digits; `after` tells whether
an underscore may come first. -/
def ungroup? (isDigit : Char → Bool) (after : Bool) : List Char → Option (List Char)
  | [] => some []
  | c :: cs =>
    if c = '_' then
      if after ∧ cs.head?.any isDigit then ungroup? isDigit false cs else none
    else (ungroup? isDigit (isDigit c) cs).map (c :: ·)

/-- The base that a letter after a zero chooses. -/
def baseOf? (c : Char) : Option Nat :=
  match c.toLower with
  | 'x' => some 16
  | 'o' => some 8
  | 'b' => some 2
  | _ => none

/-- The whole number that a text with a prefix writes: an optional sign, a zero, the letter of a
base and digits of that base. -/
def readPrefixed? (cs : List Char) : Option Int :=
  let (negative, body) := sign cs
  match body with
  | '0' :: letter :: digits => do
    let base ← baseOf? letter
    let isDigit (c : Char) : Bool := (Text.digitInBase? base c).isSome
    let digits ← ungroup? isDigit true (Text.stripEnd digits)
    if digits ≠ [] ∧ digits.all isDigit then
      let size : Int := Text.valueInBase base digits
      return if negative then -size else size
    else none
  | _ => none

/-- The whole number that a decimal text writes. -/
def readDecimalWhole? (cs : List Char) : Option Int := do
  let cs ← ungroup? Text.isDigit false (Text.strip cs)
  if (sign cs).2.length ≤ digitLimit then readWhole? cs else none

/-- The whole number nearest to what a decimal text with a point writes. -/
def readRounded? (cs : List Char) : Option Int := do
  let cs ← ungroup? Text.isDigit false (Text.strip cs)
  let n ← read? cs
  n.round.toOption

/-- The whole number that a text writes, with a prefix, with a point, or in plain digits. -/
def readGrouped? (cs : List Char) : Option Int :=
  (readPrefixed? cs).or (if '.' ∈ cs then readRounded? cs else readDecimalWhole? cs)

/-- What follows a word at the start of a text, in letters of any case. -/
def afterWord? (word : String) (cs : List Char) : Option (List Char) :=
  if (cs.take word.length).map Char.toLower = word.toList then some (cs.drop word.length) else none

/-- What follows an exponent; a text that does not start with one is left as it is. -/
def afterExponent (cs : List Char) : List Char :=
  match cs with
  | c :: rest =>
    let (_, body) := sign rest
    if (c = 'e' ∨ c = 'E') ∧ body.head?.any Text.isDigit then body.dropWhile Text.isDigit else cs
  | [] => []

/-- What follows a decimal number without a sign. -/
def afterDecimal? (cs : List Char) : Option (List Char) :=
  let rest := cs.dropWhile Text.isDigit
  match rest with
  | '.' :: places =>
    if cs.head?.any Text.isDigit ∨ places.head?.any Text.isDigit then
      some (afterExponent (places.dropWhile Text.isDigit))
    else none
  | _ => if cs.head?.any Text.isDigit then some (afterExponent rest) else none

/-- What follows a real number, which can be infinite or no number. -/
def afterReal? (cs : List Char) : Option (List Char) :=
  let (_, body) := sign cs
  (afterWord? "infinity" body).or ((afterWord? "inf" body).or
    ((afterWord? "nan" body).or (afterDecimal? body)))

/-- Whether the text is the letter of the imaginary unit. -/
def isUnit (cs : List Char) : Bool :=
  cs = ['j'] || cs = ['J']

/-- Whether a text writes the imaginary part of a number after its real part. -/
def isImaginary (cs : List Char) : Bool :=
  cs.head?.any (fun c => c = '+' || c = '-') && isUnit ((afterReal? cs).getD (cs.drop 1))

/-- Whether a text writes a complex number. -/
def isComplex (cs : List Char) : Bool :=
  match ungroup? Text.isDigit false (Text.strip cs) with
  | none => false
  | some cs =>
    match afterReal? cs with
    | some rest => rest.isEmpty || isUnit rest || isImaginary rest
    | none => isUnit (sign cs).2

/-- Whether a text writes a number. -/
def isNumeral (cs : List Char) : Bool :=
  isComplex cs || (readPrefixed? cs).isSome

end SchemaCanvas.Number
