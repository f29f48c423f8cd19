import SchemaCanvas.Proofs.Layout.RoundTrip
import SchemaCanvas.Proofs.Picture.Shown

/-!
# Places that are written and read

A diagram that is written and read shows the tables that it showed before
(`Diagram.Reread.mentions`), and stores the places that it stored, rounded to whole pixels
(`Diagram.Reread.get?_stored`). Whole places of double precision stay the same
(`Position.Reread.same`).
-/

namespace SchemaCanvas

/-! ## Optional values that are related -/

section Related

variable {α β : Type} {r : α → β → Prop}

/-- A value that is there is related to one that is there. -/
theorem exists_of_rel_some_left {a : α} {o : Option β} (h : Option.Rel r (some a) o) :
    ∃ b, o = some b ∧ r a b := by
  cases h with
  | some hab => exact ⟨_, rfl, hab⟩

/-- A value that is there has one related to it that is there. -/
theorem exists_of_rel_some_right {o : Option α} {b : β} (h : Option.Rel r o (some b)) :
    ∃ a, o = some a ∧ r a b := by
  cases h with
  | some hab => exact ⟨_, rfl, hab⟩

end Related

/-! ## Places -/

/-- Whether two places have the same coordinates. -/
def Position.Same (p q : Position) : Prop :=
  p.x.same q.x = true ∧ p.y.same q.y = true

/-- Whether the same tables are at the same places. -/
def Positions.Same (a b : Positions) : Prop :=
  ∀ name, Option.Rel Position.Same (a.get? name) (b.get? name)

/-- Whether both coordinates are whole numbers of double precision. -/
def Position.Whole (p : Position) : Prop :=
  p.x.Whole ∧ p.y.Whole

/-- Whether all places are whole. -/
def Positions.Whole (positions : Positions) : Prop :=
  ∀ name p, positions.get? name = some p → p.Whole

/-- There is a place that is not a given whole one. -/
theorem Position.Whole.exists_not_same {p : Position} (h : p.Whole) :
    ∃ q : Position, ¬ q.Same p := by
  obtain ⟨⟨n, -, hn⟩, -⟩ := h
  refine ⟨⟨.whole (n + 1), .whole 0⟩, fun hs => ?_⟩
  have hx : (n + 1) * (Binary64.unitsPerOne : Int) = n * Binary64.unitsPerOne := by
    have hsame := hs.1
    rw [Number.same, hn] at hsame
    exact of_decide_eq_true hsame
  have hpos : (0 : Int) < Binary64.unitsPerOne := Int.natCast_pos.2 Binary64.unitsPerOne_pos
  exact absurd (Int.eq_of_mul_eq_mul_right (Int.ne_of_gt hpos) hx) (by omega)

/-- How a place comes back that is written and read. -/
def Position.Reread (p p' : Position) : Prop :=
  ∃ m n, p.x.round = .ok m ∧ p.y.round = .ok n ∧
    p' = ⟨.real (Line.wholeValue m), .real (Line.wholeValue n)⟩

/-- A whole place comes back as it is. -/
theorem Position.Reread.same {p p' : Position} (h : p.Reread p') (hp : p.Whole) : p'.Same p := by
  obtain ⟨m, n, hx, hy, rfl⟩ := h
  exact ⟨hp.1.same hx, hp.2.same hy⟩

/-! ## Diagrams -/

/-- The places that entries give to a table come back with the entries. -/
theorem lookup_placements_reread (table : String) {es es' : List Entry}
    (h : List.Forall₂ Entry.Reread es es') :
    Option.Rel Position.Reread (Registry.lookup table (es.filterMap Entry.placement?))
      (Registry.lookup table (es'.filterMap Entry.placement?)) := by
  induction h with
  | nil => exact .none
  | @cons e e' es es' he h ih =>
    cases he with
    | wildcard schema => exact ih
    | @unplaced name x y hp =>
      have hnone : (Entry.table name x y).placement? = none := by
        cases x <;> cases y
        · rfl
        · rfl
        · rfl
        · cases hp
      rw [List.filterMap_cons_none hnone]
      exact ih
    | @placed name x y m n hx hy =>
      have placement : ∀ x y,
          (Entry.table name (some x) (some y)).placement? = some (name, ⟨x, y⟩) := fun _ _ => rfl
      rw [List.filterMap_cons_some (placement _ _), List.filterMap_cons_some (placement _ _),
        Registry.lookup, Registry.lookup]
      by_cases hname : name = table
      · rw [if_pos hname, if_pos hname]
        exact .some ⟨m, n, hx, hy, rfl⟩
      · rw [if_neg hname, if_neg hname]
        exact ih

namespace Diagram.Reread

variable {d d' : Diagram}

/-- The places that a diagram stores come back with it. -/
theorem get?_stored (h : d.Reread d') (table : String) :
    Option.Rel Position.Reread (d.stored.get? table) (d'.stored.get? table) := by
  rw [Diagram.get?_stored, Diagram.get?_stored]
  exact lookup_placements_reread table (List.rel_reverse h.2)

/-- A diagram shows the same tables when it comes back. -/
theorem mentions (h : d.Reread d') {schema : Schema} {table : String} :
    d'.Mentions schema table ↔ d.Mentions schema table := by
  have hmentions :
      d'.entries.map (Entry.mentions schema) = d.entries.map (Entry.mentions schema) := by
    rw [← List.forall₂_eq_eq_eq, List.forall₂_map_left_iff, List.forall₂_map_right_iff]
    refine List.Forall₂.flip (h.2.imp fun e e' he => ?_)
    cases he with
    | wildcard schema => rfl
    | unplaced hp => rfl
    | placed hx hy => rfl
  have hexists : ∀ es : List Entry, (∃ e ∈ es, table ∈ e.mentions schema) ↔
      ∃ names ∈ es.map (Entry.mentions schema), table ∈ names := by
    simp
  rw [Diagram.Mentions, Diagram.Mentions, hexists, hexists, hmentions]

end Diagram.Reread

end SchemaCanvas
