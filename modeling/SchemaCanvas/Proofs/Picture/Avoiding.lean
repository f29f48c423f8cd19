import SchemaCanvas.Proofs.File.Loaded
import SchemaCanvas.Proofs.Layout.Rewritten
import SchemaCanvas.Proofs.Picture.Filled
import SchemaCanvas.Proofs.Picture.Shown

/-!
# Names without a mark

A diagram is written with its own name and with names of schemas and tables (`Diagram.Avoids`). All
that is done to diagrams takes names from three places only: the diagrams themselves, the canvas,
and the schema. So a mark that stands in no name there stands in no name afterwards, when places are
written into a diagram (`Diagram.Avoids.materialize`), when diagrams are filled in
(`DiagramSet.Avoids.of_fill`) and when one is refreshed (`DiagramSet.Avoids.of_refresh`). Of a file
that is read the names of its tables decide (`Loaded.avoids_ofText`).
-/

namespace SchemaCanvas

variable {α σ : Type} {mark : List Char}

/-- Whether a mark stands in none of the keys. -/
def Registry.KeysAvoid (mark : List Char) (r : Registry α) : Prop :=
  ∀ key ∈ r.keys, ¬ mark <:+: key.toList

instance (mark : List Char) (r : Registry α) : Decidable (r.KeysAvoid mark) :=
  inferInstanceAs (Decidable (∀ key ∈ r.keys, _))

/-- Whether a mark stands in none of the names that the diagrams are written with. -/
def DiagramSet.Avoids (mark : List Char) (diagrams : DiagramSet) : Prop :=
  ∀ d ∈ diagrams.values, d.Avoids mark

instance (mark : List Char) (diagrams : DiagramSet) : Decidable (diagrams.Avoids mark) :=
  inferInstanceAs (Decidable (∀ d ∈ diagrams.values, _))

/-- Whether no table of the schema has a closing mark in its name. -/
def Schema.Unmarked (schema : Schema) : Prop :=
  schema.tables.KeysAvoid Block.commentClose

instance (schema : Schema) : Decidable schema.Unmarked :=
  inferInstanceAs (Decidable (schema.tables.KeysAvoid _))

/-! ## One diagram -/

@[simp] theorem Entry.label_moveTo (positions : Positions) (e : Entry) :
    (e.moveTo positions).label = e.label := by
  cases e with
  | wildcard schema => rfl
  | table name x y => cases h : positions.get? name <;> simp [Entry.moveTo, h, label, placed]

@[simp] theorem Entry.label_fill (positions : Positions) (e : Entry) :
    (e.fill positions).label = e.label := by
  unfold Entry.fill
  split
  · rfl
  · exact Entry.label_moveTo positions e

namespace Diagram.Avoids

variable {d : Diagram}

/-- Dropping entries brings in no names. -/
theorem prune (h : d.Avoids mark) (schema : Schema) : (d.prune schema).Avoids mark :=
  ⟨h.1, fun e he => h.2 e (List.mem_filter.1 he).1⟩

/-- The entries that places are written into a diagram with have names of the diagram or of the
places. -/
theorem materialize (h : d.Avoids mark) {positions : Positions} (hp : positions.KeysAvoid mark) :
    (d.materialize positions).Avoids mark := by
  refine ⟨h.1, fun e he => ?_⟩
  rcases Entry.mem_materialize.1 he with ⟨e', he', rfl⟩ | ⟨item, hi, rfl⟩
  · rw [Entry.label_moveTo]
    exact h.2 e' he'
  · exact hp item.1 (List.mem_map_of_mem (List.mem_filter.1 hi).1)

/-- Filling in places brings in no names. -/
theorem of_fill (h : d.Avoids mark) {filled : Diagram} {g : Generator σ} {s t : σ}
    (hf : d.fill g s = .ok filled t) : filled.Avoids mark := by
  rcases Diagram.fill_eq_ok hf with ⟨-, rfl⟩ | ⟨_, _, positions, -, -, -, -, rfl⟩
  · exact h
  · refine ⟨h.1, fun e he => ?_⟩
    obtain ⟨e', he', rfl⟩ := List.mem_map.1 he
    rw [Entry.label_fill]
    exact h.2 e' he'

end Diagram.Avoids

/-! ## Sets of diagrams -/

/-- Places of tables of the schema are under names of the schema. -/
theorem Schema.keysAvoid_of_contains {schema : Schema} (h : schema.tables.KeysAvoid mark)
    {positions : Positions} (hk : ∀ table ∈ positions.keys, schema.contains table = true) :
    positions.KeysAvoid mark :=
  fun table ht => h table (Registry.contains_iff.1 (hk table ht))

namespace DiagramSet

variable {diagrams : DiagramSet}

/-- The names in a set avoid a mark exactly if those of each diagram do. -/
theorem avoids_iff_forall : diagrams.Avoids mark ↔ diagrams.Forall fun _ d => d.Avoids mark := by
  constructor
  · intro h name d hd
    exact h d (List.mem_map_of_mem (Registry.get?_eq_some.1 hd))
  · intro h d hd
    obtain ⟨item, hi, rfl⟩ := List.mem_map.1 hd
    exact Registry.Forall.of_mem_items h hi

/-- A diagram of a set that avoids a mark avoids it. -/
theorem Avoids.of_get? (h : diagrams.Avoids mark) {name : String} {d : Diagram}
    (hd : diagrams.get? name = some d) : d.Avoids mark :=
  avoids_iff_forall.1 h name d hd

/-- Putting in a diagram that avoids a mark keeps a set one that does. -/
theorem Avoids.insert (h : diagrams.Avoids mark) {d : Diagram} (hd : d.Avoids mark)
    (name : String) : DiagramSet.Avoids mark (diagrams.insert name d) :=
  avoids_iff_forall.2 ((avoids_iff_forall.1 h).insert hd)

/-- Filling in the places of all diagrams brings in no names. -/
theorem Avoids.of_fill (h : diagrams.Avoids mark) {filled : DiagramSet} {g : Generator σ} {s t : σ}
    (hf : diagrams.fill g s = .ok filled t) : filled.Avoids mark := by
  intro d hd
  obtain ⟨d', hd', u, v, hfill⟩ := forall₂_exists_of_mem_right (forall₂_fill hf) hd
  exact (h d' hd').of_fill hfill

/-- A picture shows tables under names of the schema. -/
theorem keysAvoid_of_resolve {name : String} {schema : Schema} (hs : schema.tables.KeysAvoid mark)
    {g : Generator σ} {picture : Picture} {s t : σ}
    (hr : diagrams.resolve name schema g s = .ok picture t) : picture.positions.KeysAvoid mark := by
  obtain ⟨_, positions, -, -, -, hpos, hk⟩ := resolve_eq_ok hr
  rw [hpos]
  exact schema.keysAvoid_of_contains hs hk

/-- A refresh brings in names of the new schema only. -/
theorem Avoids.of_refresh (h : diagrams.Avoids mark) {updated : DiagramSet} {name : String}
    {schema : Schema} (hs : schema.tables.KeysAvoid mark) {g : Generator σ} {picture : Picture}
    {s t : σ} (hr : diagrams.refresh name schema g s = .ok (picture, updated) t) :
    updated.Avoids mark ∧ picture.positions.KeysAvoid mark := by
  obtain ⟨d, positions, hd, -, -, hpos, hk, rfl⟩ := refresh_eq_ok hr
  have hpositions := schema.keysAvoid_of_contains hs hk
  rw [hpos]
  exact ⟨h.insert (((h.of_get? hd).prune schema).materialize hpositions) name, hpositions⟩

end DiagramSet

/-! ## Files -/

/-- The diagram that shows every schema of a script has names of its tables' schemas. -/
theorem Schema.avoids_defaultDiagrams {schema : Schema} (hk : Keyed schema.tables)
    (h : schema.Unmarked) : schema.defaultDiagrams.Avoids Block.commentClose := by
  intro d hd
  rw [Registry.values, items_defaultDiagrams] at hd
  obtain rfl := List.mem_singleton.1 hd
  have hname : ¬ Block.commentClose <:+: defaultDiagramName.toList := by decide
  refine ⟨hname, fun e he hi => ?_⟩
  obtain ⟨name, hn, rfl⟩ := mem_entries_defaultDiagram.1 he
  obtain ⟨table, rfl, hc, -⟩ := exists_contains_of_mem_schemaNames hk hn
  refine h _ (Registry.contains_iff.1 hc) (hi.trans ⟨[], '.' :: table.name.toList, ?_⟩)
  simp [Table.qualifiedName, qualify, Entry.label]

/-- A file whose tables have no closing mark in their names has none in the names of its diagrams:
a block ends at the first closing mark, so there is none in what is read from it. -/
theorem Loaded.avoids_ofText {text : String} {file : Loaded} (h : ofText text = .ok file)
    (hs : file.schema.Unmarked) : file.diagrams.Avoids Block.commentClose := by
  obtain ⟨hschema, -, block, ws, hread, ⟨rfl, -⟩ | ⟨-, hdefault⟩⟩ := ofText_eq_ok h
  · exact fun d hd => ((Block.fromLines_readText hread).of_mem hd).avoids
  · rw [hdefault]
    exact Schema.avoids_defaultDiagrams (hschema ▸ Schema.keyed_ofText text) hs

end SchemaCanvas
