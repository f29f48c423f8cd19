import SchemaCanvas.Proofs.Number.Whole

/-!
# The whole number nearest to a real one

The whole number nearest to a number of double precision is a number of double precision, too
(`Binary64.representable_round`): below `2 ^ 53` all whole numbers are, and from there on all
numbers of double precision are whole (`Binary64.unitsPerOne_dvd`).
-/

namespace SchemaCanvas

/-- Rounding goes up by one at most. -/
theorem halfEven_le (n d : Nat) : halfEven n d ≤ n / d + 1 := by
  have hle : n / d ≤ n / d + 1 := Nat.le_succ _
  unfold halfEven
  dsimp only
  split
  · exact hle
  split
  · exact Nat.le_refl _
  split
  · exact hle
  · exact Nat.le_refl _

namespace Binary64

/-- A power of two well in range needs no rounding. -/
theorem representable_two_pow {k : Nat} (h : 53 + k ≤ 2098) : Representable (2 ^ k) := by
  have hlt := mul_pow_lt (n := 1) (by decide) h
  have hmod := mod_step_mul_pow (n := 1) (by decide) k
  rw [Nat.one_mul] at hlt hmod
  rw [Representable, unitsLimit_eq]
  exact ⟨hlt, hmod⟩

/-- A power of two is a power of two in units, too. -/
theorem two_pow_mul_unitsPerOne (k : Nat) : 2 ^ k * unitsPerOne = 2 ^ (k + 1074) := by
  rw [unitsPerOne_eq, Nat.pow_add]

/-- The step of a magnitude of 53 bits and more. -/
theorem two_pow_dvd_step {units k : Nat} (h : 2 ^ (53 + k) ≤ units) : 2 ^ k ∣ step units := by
  have hne : units ≠ 0 := Nat.ne_of_gt (Nat.lt_of_lt_of_le (Nat.two_pow_pos _) h)
  have hlog := (Nat.le_log2 hne).2 h
  exact Nat.pow_dvd_pow 2 (by omega)

/-- From `2 ^ 53` on every number of double precision is whole. -/
theorem unitsPerOne_dvd {units : Nat} (h : Representable units)
    (hle : 2 ^ 53 * unitsPerOne ≤ units) : unitsPerOne ∣ units := by
  rw [two_pow_mul_unitsPerOne] at hle
  rw [unitsPerOne_eq]
  exact Nat.dvd_trans (two_pow_dvd_step hle) (Nat.dvd_of_mod_eq_zero h.2)

/-- The nearest whole magnitude needs no rounding. -/
theorem representable_halfEven {units : Nat} (h : Representable units) :
    Representable (halfEven units unitsPerOne * unitsPerOne) := by
  rcases Nat.lt_or_ge units (2 ^ 53 * unitsPerOne) with hlt | hge
  · have hdiv : units / unitsPerOne < 2 ^ 53 := (Nat.div_lt_iff_lt_mul unitsPerOne_pos).2 hlt
    have hle : halfEven units unitsPerOne ≤ 2 ^ 53 := Nat.le_trans (halfEven_le _ _) hdiv
    rcases Nat.lt_or_eq_of_le hle with hlt | heq
    · exact representable_whole hlt
    · rw [heq, two_pow_mul_unitsPerOne]
      exact representable_two_pow (by decide)
  · have hunits := Nat.div_mul_cancel (unitsPerOne_dvd h hge)
    have hexact := halfEven_mul (units / unitsPerOne) unitsPerOne_pos
    rw [hunits] at hexact
    rwa [hexact, hunits]

/-- The nearest whole number needs no rounding. -/
theorem representable_round {x : Binary64} {m : Int} (h : x.round = .ok m) :
    Representable (m.natAbs * unitsPerOne) := by
  cases x with
  | finite negative units hr =>
    have habs : m.natAbs = halfEven units unitsPerOne := by
      rw [← Except.ok.inj h, signed]
      split
      · rw [Int.natAbs_neg, Int.natAbs_natCast]
      · rw [Int.natAbs_natCast]
    rw [habs]
    exact representable_halfEven hr
  | infinite negative => cases h
  | nan => cases h

end Binary64

end SchemaCanvas
