/-!
# Decimal digits

Every script of Unicode with decimal digits has them as ten consecutive code points, from zero to
nine. `Text.digitZeros` lists the zeros; `Text.digitValue?` reads a digit of any script. In a base
past ten, ASCII letters go on from nine.
-/

namespace SchemaCanvas.Text

/-- The code points of the digit zero, one for each set of decimal digits of Unicode 15. -/
def digitZeros : List Nat :=
  [0x0030, 0x0660, 0x06F0, 0x07C0, 0x0966, 0x09E6, 0x0A66, 0x0AE6, 0x0B66, 0x0BE6, 0x0C66, 0x0CE6,
   0x0D66, 0x0DE6, 0x0E50, 0x0ED0, 0x0F20, 0x1040, 0x1090, 0x17E0, 0x1810, 0x1946, 0x19D0, 0x1A80,
   0x1A90, 0x1B50, 0x1BB0, 0x1C40, 0x1C50, 0xA620, 0xA8D0, 0xA900, 0xA9D0, 0xA9F0, 0xAA50, 0xABF0,
   0xFF10, 0x104A0, 0x10D30, 0x11066, 0x110F0, 0x11136, 0x111D0, 0x112F0, 0x11450, 0x114D0,
   0x11650, 0x116C0, 0x11730, 0x118E0, 0x11950, 0x11C50, 0x11D50, 0x11DA0, 0x11F50, 0x16A60,
   0x16AC0, 0x16B50, 0x1D7CE, 0x1D7D8, 0x1D7E2, 0x1D7EC, 0x1D7F6, 0x1E140, 0x1E2F0, 0x1E4F0,
   0x1E950, 0x1FBF0]

/-- The value of a decimal digit of any script. -/
def digitValue? (c : Char) : Option Nat :=
  (digitZeros.find? fun first => decide (first ≤ c.toNat) && decide (c.toNat < first + 10)).map
    (c.toNat - ·)

/-- Whether `c` is a decimal digit of some script. -/
def isDigit (c : Char) : Bool :=
  (digitValue? c).isSome

/-- The number that a run of decimal digits writes, the leading digit first. -/
def digitsValue (digits : List Char) : Nat :=
  digits.foldl (fun value c => 10 * value + (digitValue? c).getD 0) 0

/-- The value of a digit in a base of up to thirty-six: a decimal digit of any script, or an ASCII
letter from ten on. -/
def digitInBase? (base : Nat) (c : Char) : Option Nat :=
  let value? := (digitValue? c).or
    (if c.isAlpha then some (c.toLower.toNat - 'a'.toNat + 10) else none)
  value?.filter (· < base)

/-- The number that a run of digits writes in a base, the leading digit first. -/
def valueInBase (base : Nat) (digits : List Char) : Nat :=
  digits.foldl (fun value c => base * value + (digitInBase? base c).getD 0) 0

end SchemaCanvas.Text
