import SchemaCanvas.Proofs.Picture.Stored

/-!
# What a picture shows

A picture that a diagram is resolved to, or that a refresh gives, shows tables of the schema, each
where it was placed (`DiagramSet.resolve_eq_ok`, `DiagramSet.refresh_eq_ok`). So a table that a
diagram stores a place of is shown there, whatever the generator does
(`DiagramSet.Stores.get?_resolve`), and a refresh keeps it there (`DiagramSet.Stores.refresh`).
-/

namespace SchemaCanvas

variable {σ : Type}

/-- A selection holds tables of the schema only. -/
theorem Diagram.contains_of_mem_select {d : Diagram} {schema : Schema} {table : String}
    (h : table ∈ (d.select schema).keys) : schema.contains table = true :=
  (Diagram.mem_keys_select.1 h).1

/-- The places that are given to the tables of a selection are those that their picture shows. -/
theorem Diagram.positions_draw_of_place {d : Diagram} {schema : Schema} {g : Generator σ}
    {positions : Positions} {s t : σ} (h : (d.select schema).place g s = .ok positions t) :
    (Picture.draw schema positions).positions = positions ∧
      ∀ table ∈ positions.keys, schema.contains table = true := by
  have hc : ∀ table ∈ positions.keys, schema.contains table = true := fun table ht =>
    Diagram.contains_of_mem_select ((Selection.mem_keys_place h table).1 ht)
  exact ⟨Picture.positions_draw hc, hc⟩

/-- A diagram is found exactly under its name. -/
theorem DiagramSet.find_eq_ok {diagrams : DiagramSet} {name : String} {d : Diagram} {s t : σ} :
    diagrams.find name s = .ok d t ↔ diagrams.get? name = some d ∧ t = s := by
  unfold DiagramSet.find
  cases diagrams.get? name with
  | none => exact ⟨nofun, fun h => nomatch h.1⟩
  | some d' =>
    exact ⟨fun h => by cases h; exact ⟨rfl, rfl⟩, fun ⟨h, ht⟩ => by cases h; cases ht; rfl⟩

/-- The places of a resolved diagram's tables, and the picture that shows them there. -/
theorem DiagramSet.resolve_eq_ok {diagrams : DiagramSet} {name : String} {schema : Schema}
    {g : Generator σ} {picture : Picture} {s t : σ}
    (h : diagrams.resolve name schema g s = .ok picture t) :
    ∃ d positions, diagrams.get? name = some d ∧ (d.select schema).place g s = .ok positions t ∧
      picture = Picture.draw schema positions ∧ picture.positions = positions ∧
      ∀ table ∈ positions.keys, schema.contains table = true := by
  obtain ⟨d, u, hfind, hrest⟩ := bind_eq_ok.1 h
  obtain ⟨positions, v, hp, hdraw⟩ := bind_eq_ok.1 hrest
  obtain ⟨hd, rfl⟩ := DiagramSet.find_eq_ok.1 hfind
  cases hdraw
  obtain ⟨hpos, hc⟩ := Diagram.positions_draw_of_place hp
  exact ⟨d, positions, hd, hp, rfl, hpos, hc⟩

/-- The picture of a diagram shows the tables that the diagram mentions. -/
theorem DiagramSet.mem_keys_resolve {diagrams : DiagramSet} {name : String} {schema : Schema}
    {g : Generator σ} {picture : Picture} {s t : σ}
    (h : diagrams.resolve name schema g s = .ok picture t) {d : Diagram}
    (hd : diagrams.get? name = some d) {table : String} :
    table ∈ picture.positions.keys ↔ d.Mentions schema table := by
  obtain ⟨d', positions, hd', hp, -, hpos, -⟩ := DiagramSet.resolve_eq_ok h
  rw [hd, Option.some.injEq] at hd'
  subst hd'
  rw [hpos, Selection.mem_keys_place hp, Diagram.mem_keys_select]

/-- The foreign keys of a picture depend only on which tables it shows. -/
theorem DiagramSet.edges_resolve {diagrams : DiagramSet} {name : String} {schema : Schema}
    {g : Generator σ} {picture : Picture} {s t : σ}
    (h : diagrams.resolve name schema g s = .ok picture t) {positions : Positions}
    (hk : ∀ table, table ∈ positions.keys ↔ table ∈ picture.positions.keys) :
    picture.edges = (Picture.draw schema positions).edges := by
  obtain ⟨d, placed, -, -, rfl, hpos, -⟩ := DiagramSet.resolve_eq_ok h
  have hcontains : ∀ table, positions.contains table = placed.contains table := by
    intro table
    rw [Bool.eq_iff_iff, Registry.contains_iff, Registry.contains_iff, hk, hpos]
  simp only [Picture.draw, hcontains]

/-- A diagram that stores a place of every table it shows is drawn without the generator. -/
theorem DiagramSet.resolve_of_stored {diagrams : DiagramSet} {name : String} {d : Diagram}
    (hd : diagrams.get? name = some d) {schema : Schema}
    (h : ∀ table, d.Mentions schema table → table ∈ d.stored.keys) (g : Generator σ) (s : σ) :
    diagrams.resolve name schema g s
      = .ok (Picture.draw schema ((d.select schema).complete ∅)) s := by
  have hplaced : ∀ table, (d.select schema).get? table ≠ some none := by
    intro table hs
    have hm := Diagram.mem_keys_select.1 (Registry.mem_keys_of_get? hs)
    obtain ⟨p, hp⟩ := Registry.exists_get? (h table hm)
    rw [Diagram.get?_select_of_stored hm.1 hp] at hs
    cases hs
  unfold DiagramSet.resolve
  rw [bind_of_ok (DiagramSet.find_eq_ok.2 ⟨hd, rfl⟩),
    bind_of_ok (Selection.place_of_placed hplaced g s)]
  rfl

/-- A diagram that stores a place of each table that it mentions is resolved by every generator,
without asking it. -/
theorem DiagramSet.exists_resolve_of_stored {diagrams : DiagramSet} {name : String} {d : Diagram}
    (hd : diagrams.get? name = some d) {schema : Schema}
    (h : ∀ table, d.Mentions schema table → table ∈ d.stored.keys) (g : Generator σ) (s : σ) :
    ∃ picture, diagrams.resolve name schema g s = .ok picture s :=
  ⟨_, resolve_of_stored hd h g s⟩

/-- With a total generator every diagram of the set can be resolved. -/
theorem DiagramSet.exists_resolve {diagrams : DiagramSet} {name : String}
    (hn : name ∈ diagrams.keys) (schema : Schema) {g : Generator σ} (hg : g.Total) (s : σ) :
    ∃ picture t, diagrams.resolve name schema g s = .ok picture t := by
  obtain ⟨d, hd⟩ := Registry.exists_get? hn
  obtain ⟨positions, t, hp⟩ := (d.select schema).exists_place hg s
  refine ⟨Picture.draw schema positions, t, ?_⟩
  unfold DiagramSet.resolve
  rw [bind_of_ok (DiagramSet.find_eq_ok.2 ⟨hd, rfl⟩), bind_of_ok hp]
  rfl

/-- With a total generator every diagram that is there can be resolved. -/
theorem DiagramSet.resolve_ne_error {diagrams : DiagramSet} {name : String}
    (hn : name ∈ diagrams.keys) {schema : Schema} {g : Generator σ} (hg : g.Total)
    {cause : LayoutError} {s t : σ} : diagrams.resolve name schema g s ≠ .error cause t := by
  obtain ⟨picture, u, h⟩ := DiagramSet.exists_resolve hn schema hg s
  rw [h]
  nofun

/-- A refresh places the tables of the pruned diagram and writes their places into it. -/
theorem DiagramSet.refresh_eq_ok {diagrams updated : DiagramSet} {name : String} {schema : Schema}
    {g : Generator σ} {picture : Picture} {s t : σ}
    (h : diagrams.refresh name schema g s = .ok (picture, updated) t) :
    ∃ d positions, diagrams.get? name = some d ∧
      ((d.prune schema).select schema).place g s = .ok positions t ∧
      picture = Picture.draw schema positions ∧ picture.positions = positions ∧
      (∀ table ∈ positions.keys, schema.contains table = true) ∧
      updated = diagrams.insert name ((d.prune schema).materialize positions) := by
  obtain ⟨d, u, hfind, hrest⟩ := bind_eq_ok.1 h
  obtain ⟨positions, v, hp, hdraw⟩ := bind_eq_ok.1 hrest
  obtain ⟨hd, rfl⟩ := DiagramSet.find_eq_ok.1 hfind
  cases hdraw
  obtain ⟨hpos, hc⟩ := Diagram.positions_draw_of_place hp
  exact ⟨d, positions, hd, hp, rfl, hpos, hc, rfl⟩

/-! ## Stored places are shown -/

/-- A table is shown at the place that the resolved diagram stores. -/
theorem DiagramSet.Stores.get?_resolve {diagrams : DiagramSet} {name table : String} {p : Position}
    (h : diagrams.Stores name table p) {schema : Schema} (hc : schema.contains table = true)
    {g : Generator σ} {picture : Picture} {s t : σ}
    (hr : diagrams.resolve name schema g s = .ok picture t) :
    picture.positions.get? table = some p := by
  obtain ⟨d, positions, hd, hp, -, hpos, -⟩ := DiagramSet.resolve_eq_ok hr
  obtain ⟨d', hd', hs⟩ := h
  rw [hd, Option.some.injEq] at hd'
  subst hd'
  rw [hpos]
  exact Selection.get?_place hp (Diagram.get?_select_of_stored hc hs)

/-- A refresh shows a table of the new schema at its stored place, and stores it there again; what
other diagrams store is left. -/
theorem DiagramSet.Stores.refresh {diagrams updated : DiagramSet} {name other table : String}
    {p : Position} (h : diagrams.Stores name table p) {schema : Schema}
    (hc : schema.contains table = true) {g : Generator σ} {picture : Picture} {s t : σ}
    (hr : diagrams.refresh other schema g s = .ok (picture, updated) t) :
    updated.Stores name table p ∧ (other = name → picture.positions.get? table = some p) := by
  obtain ⟨d, positions, hd, hp, -, hpos, -, rfl⟩ := DiagramSet.refresh_eq_ok hr
  by_cases hn : name = other
  · subst hn
    obtain ⟨d', hd', hs⟩ := h
    rw [hd, Option.some.injEq] at hd'
    subst hd'
    rw [← Diagram.get?_stored_prune d hc] at hs
    have hpl := Selection.get?_place hp (Diagram.get?_select_of_stored hc hs)
    refine ⟨DiagramSet.stores_insert_self diagrams name ?_, fun _ => hpos ▸ hpl⟩
    exact Diagram.get?_stored_materialize _ hpl
  · exact ⟨h.insert_of_ne hn _, fun he => absurd he.symm hn⟩

end SchemaCanvas
