import Mathlib.Algebra.Group.Nat.Defs
import SchemaCanvas.Number.Basic
import SchemaCanvas.Text.Digit

/-!
# Whole numbers as text and back

A whole number is written with ASCII digits, which read as the number again
(`Text.digitsValue_toDigits`). The real number nearest to digits without a point is the one of their
value (`Decimal.value_whole`), and it has exactly this value when it needs no rounding, as below
`2 ^ 53` (`Binary64.units?_ofInt`, `Binary64.representable_whole`).
-/

namespace SchemaCanvas

/-! ## Digits -/

namespace Text

/-- The ASCII digits have the code points from 48 to 57. -/
theorem toNat_of_isDigit {c : Char} (h : c.isDigit = true) : 48 ≤ c.toNat ∧ c.toNat ≤ 57 := by
  simpa [Char.isDigit, UInt32.le_iff_toNat_le] using h

/-- An ASCII digit has its place among them as its value. -/
theorem digitValue?_of_isDigit {c : Char} (h : c.isDigit = true) :
    digitValue? c = some (c.toNat - 48) := by
  have hc := toNat_of_isDigit h
  have hfind : (digitZeros.find? fun first =>
      decide (first ≤ c.toNat) && decide (c.toNat < first + 10)) = some 48 := by
    refine List.find?_cons_of_pos (l := digitZeros.tail) ?_
    simp only [Bool.and_eq_true, decide_eq_true_eq]
    omega
  rw [digitValue?, hfind]
  rfl

/-- The digits that a number is written with are digits. -/
theorem isDigit_of_mem_toDigits {n : Nat} {c : Char} (h : c ∈ Nat.toDigits 10 n) :
    isDigit c = true := by
  rw [isDigit, digitValue?_of_isDigit (Nat.isDigit_of_mem_toDigits (by decide) (by decide) h)]
  rfl

/-- The digits of a number write the number. -/
theorem digitsValue_toDigits (n : Nat) : digitsValue (Nat.toDigits 10 n) = n := by
  have agree : ∀ (cs : List Char) (value : Nat), (∀ c ∈ cs, c.isDigit = true) →
      cs.foldl (fun value c => 10 * value + (digitValue? c).getD 0) value
        = Nat.ofDigitChars 10 cs value := by
    intro cs
    induction cs with
    | nil => intro value _; rw [List.foldl_nil, Nat.ofDigitChars_nil]
    | cons c cs ih =>
      intro value h
      rw [List.foldl_cons, ih _ fun d hd => h d (List.mem_cons_of_mem c hd),
        Nat.ofDigitChars_cons, digitValue?_of_isDigit (h c List.mem_cons_self)]
      rfl
  rw [digitsValue, agree _ _ fun c hc => Nat.isDigit_of_mem_toDigits (by decide) (by decide) hc,
    Nat.ofDigitChars_ten_toDigits]

end Text

/-- A whole number is written as its digits, with a sign before them when it is negative. -/
theorem toList_repr (m : Int) :
    m.repr.toList = (if m < 0 then ['-'] else []) ++ Nat.toDigits 10 m.natAbs := by
  rw [Int.repr_eq_if]
  by_cases hm : 0 ≤ m
  · have habs : m.toNat = m.natAbs := by omega
    rw [if_pos hm, if_neg (by omega), Nat.toList_repr, habs, List.nil_append]
  · have habs : (-m).toNat = m.natAbs := by omega
    rw [if_neg hm, if_pos (by omega), String.toList_append, Nat.toList_repr, habs]
    rfl

/-- The text of a whole number consists of digits and a sign. -/
theorem mem_toList_repr {m : Int} {c : Char} (h : c ∈ m.repr.toList) :
    c = '-' ∨ c.isDigit = true := by
  rw [toList_repr] at h
  rcases List.mem_append.1 h with h | h
  · split at h
    · exact .inl (List.mem_singleton.1 h)
    · cases h
  · exact .inr (Nat.isDigit_of_mem_toDigits (by decide) (by decide) h)

/-! ## Values -/

namespace Binary64

/-- One is 2¹⁰⁷⁴ times the smallest positive number. -/
theorem unitsPerOne_eq : unitsPerOne = 2 ^ 1074 := by
  decide +kernel

/-- There are units in one. -/
theorem unitsPerOne_pos : 0 < unitsPerOne := by
  decide +kernel

/-- The numbers end at 2²⁰⁹⁸ units. -/
theorem unitsLimit_eq : unitsLimit = 2 ^ 2098 := by
  decide +kernel

/-- A number of at most 53 bits that is shifted stays below the power of two that its bits and the
shift reach. -/
theorem mul_pow_lt {n : Nat} (h : n < 2 ^ 53) {k m : Nat} (hm : 53 + k ≤ m) :
    n * 2 ^ k < 2 ^ m := by
  refine Nat.lt_of_lt_of_le ?_ (Nat.pow_le_pow_right (by decide) hm)
  rw [Nat.pow_add]
  exact Nat.mul_lt_mul_of_pos_right h (Nat.two_pow_pos k)

/-- A number below `2 ^ 53` times a power of two has at most 53 significant bits. -/
theorem mod_step_mul_pow {n : Nat} (h : n < 2 ^ 53) (k : Nat) :
    n * 2 ^ k % step (n * 2 ^ k) = 0 := by
  refine Nat.mod_eq_zero_of_dvd (Nat.dvd_mul_left_of_dvd (Nat.pow_dvd_pow 2 ?_) n)
  by_cases hn : n = 0
  · rw [hn, Nat.zero_mul, Nat.log2_zero]
    omega
  · have hne := Nat.mul_ne_zero hn (Nat.ne_of_gt (Nat.two_pow_pos k))
    have hlog := (Nat.log2_lt hne).2 (mul_pow_lt h (Nat.le_refl (53 + k)))
    omega

/-- A whole magnitude below `2 ^ 53` needs no rounding. -/
theorem representable_whole {n : Nat} (h : n < 2 ^ 53) : Representable (n * unitsPerOne) := by
  unfold Representable
  rw [unitsLimit_eq, unitsPerOne_eq]
  constructor
  · apply mul_pow_lt h
    decide
  · apply mod_step_mul_pow h

/-- A whole number that is of double precision is the nearest number to itself. -/
theorem nearest_whole (negative : Bool) {n : Nat} (h : Representable (n * unitsPerOne)) :
    nearest negative n 1 = ofUnits negative (n * unitsPerOne) := by
  have hround := roundUnits_of_representable h Nat.one_pos
  rw [Nat.mul_one] at hround
  rw [nearest, hround]

/-- A whole number that needs no rounding is kept as it is. -/
theorem units?_ofInt {m : Int} (h : Representable (m.natAbs * unitsPerOne)) :
    (Number.real (ofInt m)).units? = some (m * unitsPerOne) := by
  rw [ofInt, nearest_whole _ h, ofUnits, dif_pos h, Number.units?, signed]
  by_cases hm : m < 0
  · rw [decide_eq_true hm, if_pos rfl, Int.natCast_mul, ← Int.neg_mul,
      show -(m.natAbs : Int) = m by omega]
  · rw [decide_eq_false hm, if_neg (by decide), Int.natCast_mul,
      show (m.natAbs : Int) = m by omega]

end Binary64

/-- A number has at most as many digits as groups of three bits. -/
theorem Decimal.length_le {n j : Nat} (h : n < 2 ^ (3 * j)) (hj : 0 < j) :
    Decimal.length n ≤ j := by
  refine (Nat.length_toDigits_le_iff (by decide) hj).2 (Nat.lt_of_lt_of_le h ?_)
  rw [Nat.pow_mul]
  exact Nat.pow_le_pow_left (by decide) j

/-- A shift can be taken off both sides of a bound. -/
theorem lt_of_mul_pow_lt {n k m : Nat} (h : n * 2 ^ k < 2 ^ m) {j : Nat} (hm : m ≤ j + k) :
    n < 2 ^ j := by
  refine Nat.lt_of_mul_lt_mul_right (a := 2 ^ k) (Nat.lt_of_lt_of_le h ?_)
  rw [← Nat.pow_add]
  exact Nat.pow_le_pow_right (by decide) hm

/-- A whole magnitude in range has at most as many digits as are read. -/
theorem Decimal.length_le_of_representable {n : Nat}
    (h : Binary64.Representable (n * Binary64.unitsPerOne)) : Decimal.length n ≤ 400 := by
  have hlt := h.1
  rw [Binary64.unitsLimit_eq, Binary64.unitsPerOne_eq] at hlt
  apply Decimal.length_le
  · apply lt_of_mul_pow_lt hlt
    decide
  · decide

/-- The number nearest to digits without a point is the one nearest to the number they write. -/
theorem Decimal.value_whole {m : Int}
    (h : Binary64.Representable (m.natAbs * Binary64.unitsPerOne)) :
    Decimal.value (decide (m < 0)) m.natAbs 0 = Binary64.ofInt m := by
  have hlength := Decimal.length_le_of_representable h
  rw [Decimal.value, Binary64.ofInt]
  by_cases hm : m.natAbs = 0
  · have hzero : m = 0 := by omega
    subst hzero
    rw [if_pos hm, Binary64.nearest_whole _ h, Int.natAbs_zero, Nat.zero_mul]
  · rw [if_neg hm, if_neg (by rw [exponentLimit]; omega), if_neg (by rw [exponentLimit]; omega)]
    exact congrArg (Binary64.nearest _ · 1) (Nat.mul_one _)

end SchemaCanvas
