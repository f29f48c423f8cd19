import SchemaCanvas.Number.Binary64

/-!
# Decimal text of numbers

`Decimal.value` is the number nearest to a decimal one. `Decimal.shortest` goes the other way: the
fewest digits that read back as the number, and of those the ones nearest to it.
-/

namespace SchemaCanvas.Decimal

/-- The number of decimal digits of a positive number. -/
def length (n : Nat) : Nat :=
  (Nat.toDigits 10 n).length

/-- Powers of ten past this one are out of range for every number of interest. -/
def exponentLimit : Int :=
  400

/-- The number nearest to `digits * 10 ^ exponent`, with the sign given. -/
def value (negative : Bool) (digits : Nat) (exponent : Int) : Binary64 :=
  if digits = 0 then .ofUnits negative 0
  else if exponentLimit < exponent + length digits then .infinite negative
  else if exponent + length digits < -exponentLimit then .ofUnits negative 0
  else .nearest negative (digits * Nat.pow 10 exponent.toNat) (Nat.pow 10 (-exponent).toNat)

/-- The power of ten of the leading digit of a positive magnitude. -/
def leadingExponent (units : Nat) : Int :=
  (length (units * Nat.pow 10 400 / Binary64.unitsPerOne) : Int) - 401

/-- Digits and the power of ten of the last one. -/
structure Digits where
  digits : Nat
  exponent : Int
  deriving DecidableEq, Repr

/-- The decimal number with `count` digits that is nearest to the magnitude among those that read
back as it, if there is one. -/
def withDigits? (units count : Nat) : Option Digits :=
  let exponent := leadingExponent units - count + 1
  let n := units * Nat.pow 10 (-exponent).toNat
  let d := Binary64.unitsPerOne * Nat.pow 10 exponent.toNat
  let low := n / d
  let r := n % d
  let readsBack (digits : Nat) : Bool :=
    Binary64.roundUnits (digits * d) (Nat.pow 10 (-exponent).toNat) = units
  let highFirst : Bool := decide (d < 2 * r) || (decide (2 * r = d) && decide (low % 2 = 1))
  let first := if highFirst then low + 1 else low
  let second := if highFirst then low else low + 1
  if readsBack first then some ⟨first, exponent⟩
  else if readsBack second then some ⟨second, exponent⟩
  else none

/-- The same digits without zeros at their end. -/
def trim : (fuel : Nat) → Digits → Digits
  | 0, d => d
  | fuel + 1, d =>
    if d.digits ≠ 0 ∧ d.digits % 10 = 0 then trim fuel ⟨d.digits / 10, d.exponent + 1⟩ else d

/-- The fewest digits, at least `count`, that read back as the magnitude. -/
def shortestFrom (units : Nat) : (more count : Nat) → Digits
  | 0, count => (withDigits? units count).getD ⟨0, 0⟩
  | more + 1, count =>
    match withDigits? units count with
    | some digits => digits
    | none => shortestFrom units more (count + 1)

/-- The fewest digits that read back as a positive magnitude; seventeen are always enough. -/
def shortest (units : Nat) : Digits :=
  trim 20 (shortestFrom units 16 1)

/-- A text of `n` zeros. -/
def zeros (n : Nat) : String :=
  String.ofList (List.replicate n '0')

/-- The digits with an exponent mark: a point after the first digit unless it is the only one, and
an exponent of at least two digits with its sign. -/
def scientific (digits : String) (exponent : Int) : String :=
  let leading := String.ofList (digits.toList.take 1)
  let others := String.ofList (digits.toList.drop 1)
  let fraction := if others = "" then "" else "." ++ others
  let size := toString exponent.natAbs
  let padded := if size.length < 2 then "0" ++ size else size
  leading ++ fraction ++ "e" ++ (if exponent < 0 then "-" else "+") ++ padded

/-- The digits with a point at its place, at least one digit on either side. -/
def positional (digits : String) (exponent : Int) : String :=
  let count : Int := digits.length
  if exponent < 0 then "0." ++ zeros (-exponent - 1).toNat ++ digits
  else if count ≤ exponent + 1 then digits ++ zeros (exponent + 1 - count).toNat ++ ".0"
  else
    let cut := (exponent + 1).toNat
    String.ofList (digits.toList.take cut) ++ "." ++ String.ofList (digits.toList.drop cut)

/-- The shortest text of a positive magnitude: positional from a ten-thousandth up to below ten to
the sixteenth, scientific outside. -/
def magnitudeText (units : Nat) : String :=
  let d := shortest units
  let digits := toString d.digits
  let exponent := d.exponent + digits.length - 1
  if -4 ≤ exponent ∧ exponent < 16 then positional digits exponent else scientific digits exponent

/-- How the numbers are written that have no digits. -/
structure Names where
  infinity : String
  nan : String

/-- The shortest text that reads back as the number. -/
def text (names : Names) : Binary64 → String
  | .finite negative units _ =>
    (if negative then "-" else "") ++ (if units = 0 then "0.0" else magnitudeText units)
  | .infinite negative => (if negative then "-" else "") ++ names.infinity
  | .nan => names.nan

end SchemaCanvas.Decimal
