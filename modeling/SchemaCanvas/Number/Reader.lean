import SchemaCanvas.Number.Basic
import SchemaCanvas.Text.Digit

/-!
# Reading numbers

A number is written as an optional sign, digits, and then perhaps a fraction after a point and an
exponent after an `e`. Without fraction and exponent it is a whole number, else the real number
nearest to the decimal one.
-/

namespace SchemaCanvas.Number

/-- The greatest number of decimal digits that a whole number can have. -/
def digitLimit : Nat :=
  4300

/-- Takes a sign off the front of a text: whether it is a minus sign, and what follows. -/
def sign (cs : List Char) : Bool × List Char :=
  match cs with
  | '-' :: rest => (true, rest)
  | '+' :: rest => (false, rest)
  | _ => (false, cs)

/-- The whole number that an optional sign and digits write. -/
def readWhole? (cs : List Char) : Option Int :=
  let (negative, digits) := sign cs
  if digits ≠ [] ∧ digits.all Text.isDigit then
    some (if negative then -(Text.digitsValue digits : Int) else Text.digitsValue digits)
  else none

/-- The exponent that ends a text: zero for an empty text. -/
def readExponent? : List Char → Option Int
  | [] => some 0
  | c :: cs => if c = 'e' ∨ c = 'E' then readWhole? cs else none

/-- The number that a text writes. -/
def read? (cs : List Char) : Option Number :=
  match readWhole? cs with
  | some n => some (.whole n)
  | none =>
    let (negative, body) := sign cs
    let digits := body.takeWhile Text.isDigit
    let rest := body.dropWhile Text.isDigit
    let (places, rest) := match rest with
      | '.' :: more => (more.takeWhile Text.isDigit, more.dropWhile Text.isDigit)
      | _ => ([], rest)
    if digits = [] ∧ places = [] then none
    else (readExponent? rest).map fun exponent =>
      .real
        (Decimal.value negative (Text.digitsValue (digits ++ places)) (exponent - places.length))

end SchemaCanvas.Number
