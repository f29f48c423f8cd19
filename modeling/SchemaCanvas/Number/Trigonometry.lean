import SchemaCanvas.Number.Binary64

/-!
# Sine and cosine

Both functions are computed from their power series in fixed point with 256 binary places and
rounded once. That is exact enough for every angle of a few turns: an angle of double precision is
never so near to a zero of either function that fewer than a hundred places of the value remain.
-/

namespace SchemaCanvas.Binary64

/-- One, in fixed point with 256 binary places. -/
def one : Nat :=
  Nat.pow 2 256

/-- The double nearest to the circle constant. -/
def pi : Binary64 :=
  nearest false 7074237752028440 (Nat.pow 2 51)

/-- The sum of `count` terms of a series that starts with `term`; `square` is the square of the
argument, and the terms have the indices `k`, `k + 2`, and so on. -/
def alternatingSeries (square : Int) : (count k : Nat) → (term : Int) → Int
  | 0, _, _ => 0
  | count + 1, k, term =>
    term + alternatingSeries square count (k + 2)
      (-(term * square) / (one * ((k + 1) * (k + 2)) : Nat))

/-- The number of terms that are summed. -/
def terms : Nat :=
  96

/-- The fixed-point form of a finite number. -/
def toFixed (negative : Bool) (units : Nat) : Int :=
  signed negative (units * one / unitsPerOne)

/-- The number nearest to a fixed-point one. -/
def ofFixed (n : Int) : Binary64 :=
  nearest (decide (n < 0)) n.natAbs one

/-- The cosine of an angle of a few turns. -/
def cos : Binary64 → Binary64
  | .finite negative units _ =>
    let x := toFixed negative units
    ofFixed (alternatingSeries (x * x / one) terms 0 one)
  | _ => .nan

/-- The sine of an angle of a few turns. -/
def sin : Binary64 → Binary64
  | .finite negative units _ =>
    let x := toFixed negative units
    ofFixed (alternatingSeries (x * x / one) terms 1 x)
  | _ => .nan

end SchemaCanvas.Binary64
