import SchemaCanvas.Proofs.File.Loaded
import SchemaCanvas.Proofs.Layout.Rewritten
import SchemaCanvas.Proofs.Picture.Order
import SchemaCanvas.Proofs.Picture.Shown

/-!
# Diagrams that agree with what is shown

The positions on the canvas agree with a diagram when they are of the tables that the diagram
selects, in the same order, with every stored place of a table of the schema among them
(`Diagram.Agrees`). They do after the diagram has been placed (`Diagram.agrees_of_place`). A diagram
into which the positions have been written records them all (`Diagram.Records`), and still does once
its other tables are filled in (`Diagram.Records.of_fill`).

Diagrams that are read stand under their own names (`Loaded.named_ofText`); writing positions into
one of them and filling all of them in leaves the names alone.
-/

namespace SchemaCanvas

variable {σ : Type}

/-! ## Diagrams under their own names -/

/-- Whether every diagram stands under its own name. -/
def DiagramSet.Named (diagrams : DiagramSet) : Prop :=
  diagrams.Forall fun name d => d.name = name

/-- Filling in places keeps the name of a diagram. -/
theorem Diagram.name_of_fill {d filled : Diagram} {g : Generator σ} {s t : σ}
    (h : d.fill g s = .ok filled t) : filled.name = d.name := by
  rcases Diagram.fill_eq_ok h with ⟨-, rfl⟩ | ⟨_, _, _, -, -, -, -, rfl⟩ <;> rfl

/-- Every diagram of a set that has been filled in was filled in under its name. -/
theorem DiagramSet.exists_of_get?_fill {diagrams filled : DiagramSet} {g : Generator σ} {s t : σ}
    (h : diagrams.fill g s = .ok filled t) {name : String} {d' : Diagram}
    (hd' : filled.get? name = some d') :
    ∃ d u v, diagrams.get? name = some d ∧ d.fill g u = .ok d' v := by
  obtain ⟨d, hd⟩ := Registry.exists_get? (DiagramSet.keys_of_fill h ▸ Registry.mem_keys_of_get? hd')
  obtain ⟨d'', u, v, hd'', hf⟩ := DiagramSet.get?_of_fill h hd
  rw [hd'] at hd''
  cases hd''
  exact ⟨d, u, v, hd, hf⟩

namespace DiagramSet

variable {diagrams : DiagramSet}

/-- Writing positions into one of the diagrams keeps each under its own name. -/
theorem Named.materialize (h : diagrams.Named) {name : String} {d : Diagram}
    (hd : diagrams.get? name = some d) (positions : Positions) :
    Named (diagrams.insert name (d.materialize positions)) :=
  Registry.Forall.insert h (h name d hd)

/-- Filling in places keeps each diagram under its own name. -/
theorem Named.of_fill (h : diagrams.Named) {filled : DiagramSet} {g : Generator σ} {s t : σ}
    (hf : diagrams.fill g s = .ok filled t) : filled.Named := by
  intro name d' hd'
  obtain ⟨d, u, v, hd, hfill⟩ := exists_of_get?_fill hf hd'
  rw [Diagram.name_of_fill hfill, h name d hd]

/-- A refresh keeps each diagram under its own name. -/
theorem Named.of_refresh (h : diagrams.Named) {updated : DiagramSet} {name : String}
    {schema : Schema} {g : Generator σ} {picture : Picture} {s t : σ}
    (hr : diagrams.refresh name schema g s = .ok (picture, updated) t) : updated.Named := by
  obtain ⟨d, positions, hd, -, -, -, -, rfl⟩ := refresh_eq_ok hr
  exact Registry.Forall.insert h (h name d hd)

end DiagramSet

/-- The diagrams of a file that can be read stand under their own names. -/
theorem Loaded.named_ofText {text : String} {l : Loaded} (h : ofText text = .ok l) :
    l.diagrams.Named := by
  obtain ⟨-, -, block, ws, hread, ⟨rfl, -⟩ | ⟨-, hdefault⟩⟩ := ofText_eq_ok h
  · exact fun name d hd => (Block.fromLines_readText hread name d hd).1
  · intro name d hd
    rw [hdefault, Registry.get?_eq_some, Schema.items_defaultDiagrams] at hd
    cases List.mem_singleton.1 hd
    rfl

/-! ## Diagrams and positions -/

/-- The positions are of the tables that the diagram selects, in their order, and every place that
the diagram stores of a table of the schema is among them. -/
structure Diagram.Agrees (d : Diagram) (schema : Schema) (positions : Positions) : Prop where
  keys_eq : positions.keys = (d.select schema).keys
  get?_eq : ∀ table p, schema.contains table = true → d.stored.get? table = some p →
    positions.get? table = some p

/-- The positions are of the tables that the diagram selects, in their order, and the diagram stores
them all. -/
structure Diagram.Records (d : Diagram) (schema : Schema) (positions : Positions) : Prop where
  keys_eq : positions.keys = (d.select schema).keys
  stored : ∀ table p, positions.get? table = some p → d.stored.get? table = some p

namespace Diagram

variable {d : Diagram} {schema : Schema} {positions : Positions}

/-- Positions agree with a diagram whose tables were put there. -/
theorem agrees_of_place {g : Generator σ} {s t : σ}
    (h : (d.select schema).place g s = .ok positions t) : d.Agrees schema positions where
  keys_eq := Selection.keys_place h
  get?_eq _ _ hc hp := Selection.get?_place h (get?_select_of_stored hc hp)

/-- Positions that a diagram records agree with it. -/
theorem Records.agrees (h : d.Records schema positions) : d.Agrees schema positions where
  keys_eq := h.keys_eq
  get?_eq table p hc hp := by
    have hselect := Registry.mem_keys_of_get? (get?_select_of_stored hc hp)
    obtain ⟨q, hq⟩ := Registry.exists_get? (h.keys_eq ▸ hselect)
    have hstored := h.stored table q hq
    rw [hp] at hstored
    rw [hq, hstored]

/-- A diagram records the positions of its tables that are written into it. -/
theorem records_materialize
    (hschema : ∀ name, schema.contains name = true → name ∈ schema.tablesIn (schemaOf name))
    (hk : positions.keys = (d.select schema).keys) :
    (d.materialize positions).Records schema positions where
  keys_eq := by
    rw [keys_select_materialize hschema fun name hn => mem_keys_select.1 (hk ▸ hn), hk]
  stored _ _ hp := get?_stored_materialize d hp

/-- Filling in keeps what a diagram records. -/
theorem Records.of_fill (h : d.Records schema positions) {filled : Diagram} {g : Generator σ}
    {s t : σ} (hf : d.fill g s = .ok filled t) : filled.Records schema positions where
  keys_eq := by rw [keys_select_of_fill hf, h.keys_eq]
  stored table p hp := get?_stored_of_fill hf (h.stored table p hp)

/-- Of the places that an agreeing diagram stores those of tables of the schema are shown, and no
others. -/
theorem Agrees.get?_of_stored (h : d.Agrees schema positions) {table : String} {p : Position}
    (hp : d.stored.get? table = some p) :
    positions.get? table = if schema.contains table then some p else none := by
  split
  · next hc => exact h.get?_eq table p hc hp
  · next hc =>
    refine Registry.get?_eq_none.2 fun hk => hc ?_
    exact contains_of_mem_select (h.keys_eq ▸ hk)

end Diagram

end SchemaCanvas
