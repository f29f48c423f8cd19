import SchemaCanvas.Proofs.Layout.Written

/-!
# When diagrams can be written

Diagrams with finite coordinates can always be written tolerantly, and can be written strictly just
when every entry of a table has its place (`Block.exists_write_iff_complete`).
-/

namespace SchemaCanvas

/-- Whether the number is neither an infinity nor what is no number. -/
def Number.Finite (a : Number) : Prop :=
  a.units?.isSome = true

instance (a : Number) : Decidable a.Finite :=
  inferInstanceAs (Decidable (_ = true))

/-- A finite number has a nearest whole number. -/
theorem Number.Finite.exists_round {a : Number} (h : a.Finite) : ∃ m, a.round = .ok m := by
  match a with
  | .whole n => exact ⟨n, rfl⟩
  | .real (.finite negative units _) => exact ⟨_, rfl⟩
  | .real (.infinite _) => cases h
  | .real .nan => cases h

/-- Whether both coordinates are finite. -/
def Position.Finite (p : Position) : Prop :=
  p.x.Finite ∧ p.y.Finite

namespace Entry

/-- Whether the coordinates that the entry has are finite. -/
def Finite : Entry → Prop
  | .wildcard _ => True
  | .table _ x y => (∀ a ∈ x, a.Finite) ∧ ∀ b ∈ y, b.Finite

instance (e : Entry) : Decidable e.Finite :=
  match e with
  | .wildcard _ => inferInstanceAs (Decidable True)
  | .table _ _ _ => inferInstanceAs (Decidable (_ ∧ _))

/-- Whether the entry has a place if it is of a table. -/
def Complete (e : Entry) : Prop :=
  e.tableName?.isSome = true → e.position?.isSome = true

variable {strict : Bool} {e : Entry}

/-- The entry of a table at a place is finite exactly if the place is. -/
theorem finite_placed {name : String} {p : Position} : (placed name p).Finite ↔ p.Finite := by
  simp [placed, Finite, Position.Finite]

/-- In strict writing only complete entries have a line. -/
theorem complete_of_line {line : String} (h : e.line true = .ok line) : e.Complete := by
  intro htable
  match e with
  | .table name (some x) (some y) => rfl
  | .table name none y => cases h
  | .table name (some x) none => cases h

/-- An entry with finite coordinates has a line, in strict writing when it is complete. -/
theorem exists_line (h : e.Finite) (hs : strict = true → e.Complete) :
    ∃ line, e.line strict = .ok line := by
  have bare : ∀ name x y, e = .table name x y → e.position? = none → strict = false := by
    rintro name x y rfl hnone
    refine Bool.eq_false_iff.2 fun htrue => ?_
    have hplace := hs htrue rfl
    rw [hnone] at hplace
    cases hplace
  match e with
  | .wildcard schema => exact ⟨_, rfl⟩
  | .table name none y => exact ⟨_, by rw [bare name none y rfl rfl]; rfl⟩
  | .table name (some x) none => exact ⟨_, by rw [bare name (some x) none rfl rfl]; rfl⟩
  | .table name (some x) (some y) =>
    obtain ⟨m, hm⟩ := (h.1 x rfl).exists_round
    obtain ⟨n, hn⟩ := (h.2 y rfl).exists_round
    exact ⟨_, line_of_round hm hn⟩

end Entry

namespace Block

variable {strict : Bool} {diagrams : DiagramSet}

/-- Diagrams can be written when all their entries have a line, and only then. -/
theorem exists_write_iff : (∃ block, write strict diagrams = .ok block) ↔
    ∀ d ∈ diagrams.values, ∀ e ∈ d.entries, ∃ line, e.line strict = .ok line := by
  refine ⟨fun ⟨block, hblock⟩ d hd e he => ?_, exists_write⟩
  obtain ⟨parts, hparts, -⟩ := write_eq_ok hblock
  obtain ⟨lines, -, hlines⟩ := forall₂_exists_of_mem_right hparts.flip hd
  obtain ⟨entries, -, hentries⟩ := Diagram.lines_eq_ok hlines
  obtain ⟨line, -, hline⟩ := forall₂_exists_of_mem_right hentries.flip he
  exact ⟨line, hline⟩

/-- Diagrams with finite coordinates can be written strictly just when every entry of a table has
its place. -/
theorem exists_write_iff_complete (h : ∀ d ∈ diagrams.values, ∀ e ∈ d.entries, e.Finite) :
    (∃ block, write true diagrams = .ok block) ↔
      ∀ d ∈ diagrams.values, ∀ e ∈ d.entries, e.Complete := by
  rw [exists_write_iff]
  refine forall₂_congr fun d hd => forall₂_congr fun e he => ?_
  exact ⟨fun ⟨_, hline⟩ => Entry.complete_of_line hline,
    fun hc => Entry.exists_line (h d hd e he) fun _ => hc⟩

end Block

end SchemaCanvas
