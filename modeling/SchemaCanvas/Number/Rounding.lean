/-!
# Rounding quotients

`halfEven n d` is the whole number nearest to `n / d`; a quotient halfway between two whole numbers
goes to the even one. It is exact on multiples (`halfEven_mul`).
-/

namespace SchemaCanvas

/-- The whole number nearest to `n / d`, the even one of two that are equally near. -/
def halfEven (n d : Nat) : Nat :=
  let q := n / d
  let r := n % d
  if 2 * r < d then q
  else if d < 2 * r then q + 1
  else if q % 2 = 0 then q
  else q + 1

/-- A quotient without a remainder is not rounded. -/
theorem halfEven_mul {d : Nat} (q : Nat) (h : 0 < d) : halfEven (q * d) d = q := by
  simp [halfEven, Nat.mul_div_cancel _ h, h]

end SchemaCanvas
