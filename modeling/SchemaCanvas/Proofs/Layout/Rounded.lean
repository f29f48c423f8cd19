import SchemaCanvas.Proofs.Layout.Rewritten

/-!
# Diagrams that are the same once they are rounded

Numbers of the same value have the same nearest whole number (`Number.rounded_eq_of_same`). So
diagrams that say the same are equal once they are rounded (`DiagramSet.rounded_eq_of_same`), and so
are diagrams and what is read of them from the block that they are written to
(`DiagramSet.Reread.rounded_eq`).
-/

namespace SchemaCanvas

/-! ## Numbers -/

namespace Number

/-- The nearest whole number depends only on the size of a number. -/
theorem round_eq_of_units {a : Number} {m : Int} (h : a.units? = some m) :
    a.round = .ok (Binary64.signed (decide (m < 0)) (halfEven m.natAbs Binary64.unitsPerOne)) := by
  have hpos : (0 : Int) < Binary64.unitsPerOne := Int.natCast_pos.2 Binary64.unitsPerOne_pos
  cases a with
  | whole n =>
    obtain rfl : n * Binary64.unitsPerOne = m := Option.some.inj h
    have hneg : n * (Binary64.unitsPerOne : Int) < 0 ↔ n < 0 := by
      have hzero := Int.mul_lt_mul_right (b := n) (c := 0) hpos
      rwa [Int.zero_mul] at hzero
    rw [Int.natAbs_mul, Int.natAbs_natCast, halfEven_mul _ Binary64.unitsPerOne_pos, round,
      Binary64.signed]
    refine congrArg _ ?_
    simp only [hneg, decide_eq_true_eq]
    split <;> omega
  | real x =>
    cases x with
    | finite negative units hr =>
      obtain rfl : Binary64.signed negative units = m := Option.some.inj h
      cases negative with
      | false =>
        have hneg : ¬ (units : Int) < 0 := by omega
        have hsigned : Binary64.signed false units = units := rfl
        rw [round, Binary64.round, hsigned, Int.natAbs_natCast, decide_eq_false hneg]
      | true =>
        by_cases hzero : units = 0
        · -- The two zeros are rounded to the same whole number.
          have hhalf := halfEven_mul 0 Binary64.unitsPerOne_pos
          rw [Nat.zero_mul] at hhalf
          have hsigned : ∀ negative, Binary64.signed negative 0 = 0 := by decide
          subst hzero
          rw [round, Binary64.round, hsigned, Int.natAbs_zero, hhalf, hsigned, hsigned]
        · have hneg : -(units : Int) < 0 := by omega
          have hsigned : Binary64.signed true units = -units := rfl
          rw [round, Binary64.round, hsigned, Int.natAbs_neg, Int.natAbs_natCast,
            decide_eq_true hneg]
    | infinite negative => cases h
    | nan => cases h

/-- Numbers of the same value are rounded to the same number. -/
theorem rounded_eq_of_same {a b : Number} (h : a.same b = true) : a.rounded = b.rounded := by
  unfold same at h
  split at h
  · next m n ha hb =>
    obtain rfl : m = n := of_decide_eq_true h
    rw [rounded, rounded, round_eq_of_units ha, round_eq_of_units hb]
  · rw [of_decide_eq_true h]
  · cases h

/-- Rounding twice is rounding once, for numbers. -/
theorem rounded_rounded (a : Number) : a.rounded.rounded = a.rounded := by
  cases ha : a.round with
  | ok m =>
    have hwhole : a.rounded = .whole m := by rw [rounded, ha]
    rw [hwhole, rounded, round]
  | error cause =>
    have hsame : a.rounded = a := by rw [rounded, ha]
    rw [hsame, hsame]

end Number

/-! ## Diagrams -/

/-- Lists whose members are the same, one by one, are mapped to the same list. -/
theorem map_eq_of_isEqv {α β : Type} {r : α → α → Bool} {f : α → β}
    (hr : ∀ a b, r a b = true → f a = f b) {as bs : List α} (h : as.isEqv bs r = true) :
    as.map f = bs.map f := by
  induction as generalizing bs with
  | nil =>
    cases bs with
    | nil => rfl
    | cons => cases h
  | cons a as ih =>
    cases bs with
    | nil => cases h
    | cons b bs =>
      rw [List.isEqv, Bool.and_eq_true] at h
      rw [List.map_cons, List.map_cons, hr a b h.1, ih h.2]

/-- Coordinates that count as the same are rounded alike. -/
theorem sameNumber?_rounded {x y : Option Number} (h : sameNumber? x y = true) :
    x.map Number.rounded = y.map Number.rounded := by
  unfold sameNumber? at h
  split at h
  · rw [Option.map_some, Option.map_some, Number.rounded_eq_of_same h]
  · rfl
  · cases h

/-- Entries that count as the same are rounded alike. -/
theorem Entry.rounded_eq_of_same {e e' : Entry} (h : e.same e' = true) :
    e.rounded = e'.rounded := by
  unfold same at h
  split at h
  · rw [of_decide_eq_true h]
  · next name x y name' u v =>
    simp only [Bool.and_eq_true, decide_eq_true_eq] at h
    obtain ⟨⟨rfl, hx⟩, hy⟩ := h
    rw [rounded, rounded, sameNumber?_rounded hx, sameNumber?_rounded hy]
  · cases h

/-- Rounding the coordinates of an entry twice is rounding them once. -/
theorem Entry.rounded_rounded (e : Entry) : e.rounded.rounded = e.rounded := by
  have hmap : ∀ x : Option Number,
      (x.map Number.rounded).map Number.rounded = x.map Number.rounded := by
    intro x
    rw [Option.map_map]
    exact Option.map_congr fun a _ => a.rounded_rounded
  cases e with
  | wildcard schema => rfl
  | table name x y => rw [rounded, rounded, hmap x, hmap y]

/-- Diagrams that count as the same are rounded alike. -/
theorem Diagram.rounded_eq_of_same {d d' : Diagram} (h : d.same d' = true) :
    d.rounded = d'.rounded := by
  rw [same, Bool.and_eq_true] at h
  have hentries : d.entries.map Entry.rounded = d'.entries.map Entry.rounded :=
    map_eq_of_isEqv (f := Entry.rounded) (fun _ _ => Entry.rounded_eq_of_same) h.2
  rw [rounded, rounded, of_decide_eq_true h.1, hentries]

/-- Rounding the coordinates of a diagram twice is rounding them once. -/
theorem Diagram.rounded_rounded (d : Diagram) : d.rounded.rounded = d.rounded := by
  rw [rounded, rounded, List.map_map]
  exact congrArg _ (List.map_congr_left fun e _ => e.rounded_rounded)

/-! ## Sets of diagrams -/

namespace DiagramSet

/-- Diagrams that say the same are equal once their coordinates are rounded. -/
theorem rounded_eq_of_same {D D' : DiagramSet} (h : D.same D' = true) : D.rounded = D'.rounded := by
  refine Registry.ext (map_eq_of_isEqv (fun item item' hitem => ?_) h)
  simp only [Bool.and_eq_true, decide_eq_true_eq] at hitem
  exact Prod.ext hitem.1 (Diagram.rounded_eq_of_same hitem.2)

/-- Rounding all coordinates twice is rounding them once. -/
theorem rounded_rounded (D : DiagramSet) : D.rounded.rounded = D.rounded := by
  have hitems : ∀ D : DiagramSet,
      D.rounded.items = D.items.map fun item => (item.1, item.2.rounded) := fun _ => rfl
  refine Registry.ext ?_
  rw [hitems, hitems, List.map_map]
  exact List.map_congr_left fun item _ => congrArg (item.1, ·) item.2.rounded_rounded

/-- What is read of diagrams from their block is equal to them once both are rounded. -/
theorem Reread.rounded_eq {D D' : DiagramSet} (h : D.Reread D') (hD : D.FromLines) :
    D'.rounded = D.rounded := by
  rw [rounded_eq_of_same (h.same_rounded hD), rounded_rounded]

end DiagramSet

end SchemaCanvas
