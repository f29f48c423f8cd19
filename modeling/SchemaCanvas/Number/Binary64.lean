import SchemaCanvas.Number.Rounding

/-!
# Binary floating point of double precision

A finite number of double precision is a multiple of its smallest positive number, `2 ^ -1074`, with
at most 53 significant bits. `Binary64` keeps the multiple, so that sums, products and comparisons
are computed exactly on natural numbers and rounded once, to nearest and ties to even.
`Binary64.roundUnits_of_representable` says that rounding keeps a number that needs none.
-/

namespace SchemaCanvas

/-- The number of smallest positive numbers in one. -/
def Binary64.unitsPerOne : Nat :=
  Nat.pow 2 1074

/-- The first multiple of the smallest positive number that is out of range. -/
def Binary64.unitsLimit : Nat :=
  Nat.pow 2 2098

/-- The step between neighbours of a magnitude: a power of two that leaves it 53 bits. -/
def Binary64.step (units : Nat) : Nat :=
  Nat.pow 2 (units.log2 - 52)

/-- A magnitude in range with at most 53 significant bits. -/
def Binary64.Representable (units : Nat) : Prop :=
  units < Binary64.unitsLimit ∧ units % Binary64.step units = 0

instance (units : Nat) : Decidable (Binary64.Representable units) := by
  unfold Binary64.Representable
  infer_instance

/-- A number of double precision. -/
inductive Binary64
  | finite (negative : Bool) (units : Nat) (representable : Binary64.Representable units)
  | infinite (negative : Bool)
  | nan
  deriving DecidableEq

namespace Binary64

/-- The magnitude with at most 53 significant bits that is nearest to `n / d`. -/
def roundUnits (n d : Nat) : Nat :=
  halfEven n (d * step (n / d)) * step (n / d)

/-- The finite number with the magnitude, or an infinity when it is out of range. -/
def ofUnits (negative : Bool) (units : Nat) : Binary64 :=
  if h : Representable units then .finite negative units h else .infinite negative

/-- The number nearest to `n / d`, where `d` is positive, with the sign given. -/
def nearest (negative : Bool) (n d : Nat) : Binary64 :=
  ofUnits negative (roundUnits (n * unitsPerOne) d)

/-- The number nearest to a whole number; an infinity when that is too large. -/
def ofInt (n : Int) : Binary64 :=
  nearest (decide (n < 0)) n.natAbs 1

/-- The multiple of the smallest positive number, with its sign. -/
def signed (negative : Bool) (units : Nat) : Int :=
  if negative then -(units : Int) else units

/-- The number with the opposite sign. -/
def neg : Binary64 → Binary64
  | .finite negative units h => .finite (!negative) units h
  | .infinite negative => .infinite (!negative)
  | .nan => .nan

/-- The sum, rounded once. A sum of zero is negative only when both summands are. -/
def add : Binary64 → Binary64 → Binary64
  | .finite n₁ u₁ _, .finite n₂ u₂ _ =>
    let sum := signed n₁ u₁ + signed n₂ u₂
    if sum = 0 then ofUnits (n₁ && n₂) 0
    else ofUnits (decide (sum < 0)) (roundUnits sum.natAbs 1)
  | .infinite n₁, .infinite n₂ => if n₁ = n₂ then .infinite n₁ else .nan
  | .nan, _ => .nan
  | _, .nan => .nan
  | .infinite n, _ => .infinite n
  | _, .infinite n => .infinite n

/-- The product, rounded once. -/
def mul : Binary64 → Binary64 → Binary64
  | .finite n₁ u₁ _, .finite n₂ u₂ _ => ofUnits (n₁ != n₂) (roundUnits (u₁ * u₂) unitsPerOne)
  | .infinite n₁, .infinite n₂ => .infinite (n₁ != n₂)
  | .nan, _ => .nan
  | _, .nan => .nan
  | .infinite n₁, .finite n₂ u _ => if u = 0 then .nan else .infinite (n₁ != n₂)
  | .finite n₁ u _, .infinite n₂ => if u = 0 then .nan else .infinite (n₁ != n₂)

/-- The quotient by a positive whole number, rounded once. -/
def divNat (x : Binary64) (d : Nat) : Binary64 :=
  match x with
  | .finite negative units _ => ofUnits negative (roundUnits units d)
  | other => other

/-- Whether the first number is less than the second; no number is comparable with NaN. -/
def lt : Binary64 → Binary64 → Bool
  | .nan, _ => false
  | _, .nan => false
  | .finite n₁ u₁ _, .finite n₂ u₂ _ => decide (signed n₁ u₁ < signed n₂ u₂)
  | .infinite n₁, .infinite n₂ => n₁ && !n₂
  | .infinite n, .finite .. => n
  | .finite .., .infinite n => !n

/-- The highest of 64 bits, for a negative number. -/
def signBit (negative : Bool) : Nat :=
  if negative then Nat.pow 2 63 else 0

/-- The interchange encoding in 64 bits. -/
def bits : Binary64 → Nat
  | .finite negative units _ =>
    let exponent := if units < Nat.pow 2 52 then 0 else units.log2 - 51
    let significand := units / step units
    signBit negative + exponent * Nat.pow 2 52 + significand % Nat.pow 2 52
  | .infinite negative => signBit negative + 0x7FF * Nat.pow 2 52
  | .nan => 0x7FF8 * Nat.pow 2 48

/-- Neighbouring numbers are never the same. -/
theorem step_pos (units : Nat) : 0 < step units :=
  Nat.two_pow_pos _

/-- Rounding keeps a magnitude that needs no rounding. -/
theorem roundUnits_of_representable {units : Nat} (h : Representable units) {d : Nat}
    (hd : 0 < d) : roundUnits (units * d) d = units := by
  obtain ⟨q, hq⟩ := Nat.dvd_of_mod_eq_zero h.2
  have hp : 0 < d * step units := Nat.mul_pos hd (step_pos units)
  have e : units * d = q * (d * step units) := by
    conv => lhs; rw [hq]
    rw [Nat.mul_comm (step units) q, Nat.mul_assoc, Nat.mul_comm (step units) d]
  rw [roundUnits, Nat.mul_div_cancel _ hd, e, halfEven_mul q hp, Nat.mul_comm]
  exact hq.symm

end Binary64

end SchemaCanvas
