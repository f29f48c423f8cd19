import SchemaCanvas.Proofs.Layout.Resaved
import SchemaCanvas.Proofs.Picture.Agreeing
import SchemaCanvas.Proofs.Picture.Avoiding

/-!
# Diagrams that stay like those that are read

Every diagram that is read from a block fits into lines again: its names can be told apart there,
and its coordinates are of double precision (`Diagram.FromLines`). Places of tables of the schema do
not change this when they are written into a diagram (`Diagram.FromLines.materialize`), nor do those
that a generator gives to the other tables of a diagram (`Diagram.FromLines.of_fill`), as long as
the names of the tables fit and the places are of double precision. So it holds of the diagrams of a
file whatever is done to them (`Loaded.fromLines_ofText`, `DiagramSet.Fit.of_refresh`).
-/

namespace SchemaCanvas

variable {σ : Type}

/-! ## Names and places -/

/-- Whether the generator gives only places with the property to the tables that it is asked for. -/
def Generator.Gives (P : Position → Prop) (g : Generator σ) : Prop :=
  ∀ existing names s answer t, g existing names s = .ok answer t →
    ∀ name ∈ names, ∀ p, answer.get? name = some p → P p

/-- A generator that puts everything at one place gives what this place is like. -/
theorem Generator.gives_constant {P : Position → Prop} {p : Position} (hp : P p) :
    (Generator.constant p).Gives P := by
  intro existing names s answer t h name _ q hq
  rw [Generator.eq_of_constant h hq]
  exact hp

/-- Whether the qualified names of all tables fit into a line of a block. -/
def Schema.Fits (schema : Schema) : Prop :=
  ∀ name ∈ schema.tables.keys, Name.Fits name.toList

instance (schema : Schema) : Decidable schema.Fits :=
  inferInstanceAs (Decidable (∀ name ∈ schema.tables.keys, _))

/-- Whether every table can be put at its place in a line. -/
def Positions.FromLines (positions : Positions) : Prop :=
  positions.Forall fun name p => (Entry.placed name p).FromLine

/-- The entry of a table at a place is like those that are read exactly if the name is qualified and
fits into a line, and the place is of double precision. -/
theorem Entry.fromLine_placed {name : String} {p : Position} :
    (Entry.placed name p).FromLine ↔
      Name.Fits name.toList ∧ '.' ∈ name.toList ∧ p.Real := by
  constructor
  · rintro ⟨hfits, hqualified, ⟨hnone, -⟩ | ⟨a, b, ha, hb, hreal⟩⟩
    · cases hnone
    · cases ha
      cases hb
      exact ⟨hfits, hqualified, hreal⟩
  · rintro ⟨hfits, hqualified, hreal⟩
    exact ⟨hfits, hqualified, .inr ⟨p.x, p.y, rfl, rfl, hreal⟩⟩

/-- Another place of double precision keeps a table in its line. -/
theorem Entry.FromLine.place {e : Entry} (h : e.FromLine) {name : String}
    (hname : e.tableName? = some name) {p : Position} (hp : p.Real) :
    (Entry.placed name p).FromLine := by
  cases e with
  | wildcard schema => cases hname
  | table name' x y =>
    cases hname
    exact Entry.fromLine_placed.2 ⟨h.fits, h.qualified, hp⟩

/-- An entry stays fit when its table moves to a place of double precision. -/
theorem Entry.FromLine.moveTo {e : Entry} (h : e.FromLine) {positions : Positions}
    (hp : ∀ name p, positions.get? name = some p → p.Real) : (e.moveTo positions).FromLine := by
  cases e with
  | wildcard schema => exact h
  | table name x y =>
    cases hget : positions.get? name with
    | some p =>
      rw [Entry.moveTo_of_get? hget rfl]
      exact h.place rfl (hp name p hget)
    | none =>
      simp only [Entry.moveTo, hget]
      exact h

/-- A table of the schema can be put at every place of double precision. -/
theorem Schema.Fits.place {schema : Schema} (h : schema.Fits) (hk : Keyed schema.tables)
    {name : String} (hn : schema.contains name = true) {p : Position} (hp : p.Real) :
    (Entry.placed name p).FromLine :=
  Entry.fromLine_placed.2 ⟨h name (Registry.contains_iff.1 hn), Schema.mem_of_contains hk hn, hp⟩

/-! ## One diagram -/

namespace Diagram.FromLines

variable {d filled : Diagram} {g : Generator σ} {positions : Positions} {s t : σ}

/-- Dropping entries keeps a diagram like those that are read. -/
theorem prune (h : d.FromLines) (schema : Schema) : (d.prune schema).FromLines where
  strip_name := h.strip_name
  bracket := h.bracket
  fits := h.fits
  entries e he := h.entries e (List.mem_filter.1 he).1

/-- A stored place is one of double precision. -/
theorem of_stored (h : d.FromLines) {name : String} {p : Position}
    (hp : d.stored.get? name = some p) : (Entry.placed name p).FromLine :=
  h.entries _ (Diagram.placed_mem_of_stored hp)

/-- Writing positions of fitting tables keeps a diagram like those that are read. -/
theorem materialize (h : d.FromLines) (hp : positions.FromLines) :
    (d.materialize positions).FromLines where
  strip_name := h.strip_name
  bracket := h.bracket
  fits := h.fits
  entries e he := by
    rcases Entry.mem_materialize.1 he with ⟨e', he', rfl⟩ | ⟨item, hi, rfl⟩
    · refine (h.entries e' he').moveTo fun name p hget => ?_
      exact (Entry.fromLine_placed.1 (hp name p hget)).2.2
    · exact Registry.Forall.of_mem_items hp (List.mem_filter.1 hi).1

/-- The places that a generator gives to tables without a place keep the diagram fit. -/
theorem of_fill (h : d.FromLines) (hg : g.Gives Position.Real)
    (hf : d.fill g s = .ok filled t) : filled.FromLines := by
  rcases Diagram.fill_eq_ok hf with
    ⟨-, rfl⟩ | ⟨missing, more, positions, -, -, hmore, hpositions, rfl⟩
  · exact h
  · refine ⟨h.strip_name, h.bracket, h.fits, fun e he => ?_⟩
    obtain ⟨e', he', rfl⟩ := List.mem_map.1 he
    have hreal : ∀ name p, positions.get? name = some p → p.Real := by
      intro name p hp
      rw [hpositions, Option.or_eq_some_iff] at hp
      rcases hp with hstored | ⟨-, hgiven⟩
      · exact (Entry.fromLine_placed.1 (h.of_stored hstored)).2.2
      · obtain ⟨hn, given, hanswer, hplace⟩ := Generator.exists_of_get?_placeAll hmore hgiven
        exact hg _ _ _ _ _ hanswer name hn p hplace
    unfold Entry.fill
    split
    · exact h.entries e' he'
    · exact (h.entries e' he').moveTo hreal

/-- The tables of a diagram that are placed can be put at their places in a line. -/
theorem fromLines_place (h : d.FromLines) {schema : Schema} (hs : schema.Fits)
    (hk : Keyed schema.tables) (hg : g.Gives Position.Real)
    (hplace : (d.select schema).place g s = .ok positions t) : positions.FromLines := by
  intro name p hp
  have hselected := (Selection.mem_keys_place hplace name).1 (Registry.mem_keys_of_get? hp)
  have hmentions := Diagram.mem_keys_select.1 hselected
  refine hs.place hk hmentions.1 ?_
  obtain ⟨more, hmore, rfl⟩ := Selection.place_eq_ok.1 hplace
  classical
  rw [Selection.get?_complete, Diagram.get?_select, if_pos hmentions, Option.bind_some,
    Option.or_eq_some_iff] at hp
  rcases hp with hstored | ⟨-, hgiven⟩
  · exact (Entry.fromLine_placed.1 (h.of_stored hstored)).2.2
  · obtain ⟨hn, given, hanswer, hgiven⟩ := Generator.exists_of_get?_placeAll hmore hgiven
    exact hg _ _ _ _ _ hanswer name hn p hgiven

end Diagram.FromLines

/-! ## Sets of diagrams -/

namespace DiagramSet.Fit

variable {diagrams : DiagramSet} {g : Generator σ} {s t : σ} {name : String} {d : Diagram}

/-- A fit diagram may take the place of another one. -/
theorem insert (h : diagrams.Fit) (hd : diagrams.get? name = some d) {d' : Diagram}
    (hname : d'.name = d.name) (hd' : d'.FromLines) :
    DiagramSet.Fit (diagrams.insert name d') where
  fromLines := Registry.Forall.insert h.fromLines ⟨hname.trans (h.fromLines name d hd).1, hd'⟩
  named := by
    rw [Registry.keys_insert, if_pos (Registry.mem_keys_of_get? hd)]
    exact h.named

/-- Positions that are written into one of the diagrams keep all of them fit. -/
theorem commit (h : diagrams.Fit) (hd : diagrams.get? name = some d) {positions : Positions}
    (hp : positions.FromLines) :
    DiagramSet.Fit (diagrams.insert name (d.materialize positions)) :=
  h.insert hd rfl ((h.fromLines name d hd).2.materialize hp)

/-- Filling in places of double precision keeps diagrams such that they come back from their
block. -/
theorem of_fill (h : diagrams.Fit) (hg : g.Gives Position.Real) {filled : DiagramSet}
    (hf : diagrams.fill g s = .ok filled t) : filled.Fit where
  fromLines := by
    intro name d' hd'
    obtain ⟨d, u, v, hd, hfill⟩ := exists_of_get?_fill hf hd'
    obtain ⟨hname, hd⟩ := h.fromLines name d hd
    exact ⟨(Diagram.name_of_fill hfill).trans hname, hd.of_fill hg hfill⟩
  named := keys_of_fill hf ▸ h.named

/-- The places on the canvas and the diagrams stay fit when a diagram is refreshed for a schema
whose names fit. -/
theorem of_refresh (h : diagrams.Fit) {schema : Schema} (hs : schema.Fits)
    (hk : Keyed schema.tables) (hg : g.Gives Position.Real) {updated : DiagramSet}
    {picture : Picture} (hr : diagrams.refresh name schema g s = .ok (picture, updated) t) :
    updated.Fit ∧ picture.positions.FromLines := by
  obtain ⟨d, positions, hd, hplace, -, hpos, -, rfl⟩ := refresh_eq_ok hr
  have hpruned := (h.fromLines name d hd).2.prune schema
  have hpositions := hpruned.fromLines_place hs hk hg hplace
  rw [hpos]
  exact ⟨h.insert hd rfl (hpruned.materialize hpositions), hpositions⟩

/-- The places of a picture are fit when the diagrams are and the names of the schema fit. -/
theorem of_resolve (h : diagrams.Fit) {schema : Schema} (hs : schema.Fits)
    (hk : Keyed schema.tables) (hg : g.Gives Position.Real) {picture : Picture}
    (hr : diagrams.resolve name schema g s = .ok picture t) : picture.positions.FromLines := by
  obtain ⟨d, positions, hd, hplace, -, hpos, -⟩ := resolve_eq_ok hr
  rw [hpos]
  exact (h.fromLines name d hd).2.fromLines_place hs hk hg hplace

end DiagramSet.Fit

/-! ## Files -/

/-- The diagram that shows every schema fits when the names of the tables do: each of its wildcards
is the schema of a table. -/
theorem Schema.fromLines_defaultDiagrams {schema : Schema} (hk : Keyed schema.tables)
    (h : schema.Fits) : schema.defaultDiagrams.FromLines := by
  intro name d hd
  rw [Registry.get?_eq_some, Schema.items_defaultDiagrams] at hd
  cases List.mem_singleton.1 hd
  have hstrip : Text.strip defaultDiagramName.toList = defaultDiagramName.toList := by decide
  have hbracket : ']' ∉ defaultDiagramName.toList := by decide
  have hname : Name.Fits defaultDiagramName.toList := by decide
  refine ⟨rfl, hstrip, hbracket, hname, fun e he => ?_⟩
  obtain ⟨schemaName, hn, rfl⟩ := mem_entries_defaultDiagram.1 he
  obtain ⟨table, rfl, hc, -⟩ := exists_contains_of_mem_schemaNames hk hn
  have hfits := h _ (Registry.contains_iff.1 hc)
  have hname : table.qualifiedName.toList = table.schema.toList ++ '.' :: table.name.toList := by
    simp [Table.qualifiedName, qualify]
  rw [hname, Name.fits_append] at hfits
  exact ⟨hfits.1, trivial, trivial⟩

/-- All diagrams of a file fit into lines again when the names of its tables do. -/
theorem Loaded.fromLines_ofText {text : String} {file : Loaded} (h : ofText text = .ok file)
    (hs : file.schema.Fits) : file.diagrams.FromLines := by
  obtain ⟨hschema, -, block, ws, hread, ⟨rfl, -⟩ | ⟨-, hdefault⟩⟩ := ofText_eq_ok h
  · exact Block.fromLines_readText hread
  · rw [hdefault]
    exact Schema.fromLines_defaultDiagrams (hschema ▸ Schema.keyed_ofText text) hs

end SchemaCanvas
