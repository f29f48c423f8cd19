import SchemaCanvas.Proofs.Picture.Refreshed

/-!
# Pruning before or after

A diagram shows the same tables at the same places before and after the entries of tables that are
gone have been dropped (`Diagram.select_prune`). Positions of tables of the schema may be written
into it before or after (`Diagram.prune_materialize`). So a refresh of a diagram into which the
places of its tables were written already gives what a refresh of the diagram gives
(`DiagramSet.refresh_insert_materialize`).
-/

namespace SchemaCanvas

variable {σ : Type} {schema : Schema}

/-- Whether pruning keeps an entry. -/
def Entry.kept (schema : Schema) (e : Entry) : Bool :=
  e.tableName?.all schema.contains

/-- Pruning drops the entries that are not kept. -/
theorem Diagram.entries_prune (d : Diagram) (schema : Schema) :
    (d.prune schema).entries = d.entries.filter (Entry.kept schema) := rfl

/-- Moving an entry does not change whether it is kept. -/
theorem Entry.kept_moveTo (positions : Positions) (e : Entry) :
    (e.moveTo positions).kept schema = e.kept schema := by
  rw [Entry.kept, Entry.tableName?_moveTo, Entry.kept]

/-! ## What a diagram shows -/

/-- An entry that is dropped mentions no table of the schema. -/
theorem Entry.tables_of_dropped {e : Entry} (h : ¬ e.kept schema = true) :
    e.tables schema = [] := by
  cases e with
  | wildcard name => exact absurd rfl h
  | table name x y => exact List.filter_cons_of_neg h

/-- The entries that are dropped mention no table of the schema. -/
theorem Entry.flatMap_tables_kept (es : List Entry) :
    (es.filter (Entry.kept schema)).flatMap (Entry.tables schema)
      = es.flatMap (Entry.tables schema) := by
  induction es with
  | nil => rfl
  | cons e es ih =>
    by_cases hkept : e.kept schema = true
    · rw [List.filter_cons_of_pos hkept, List.flatMap_cons, List.flatMap_cons, ih]
    · rw [List.filter_cons_of_neg hkept, List.flatMap_cons, Entry.tables_of_dropped hkept, ih,
        List.nil_append]

/-- A diagram mentions a table of the schema in an entry that is kept. -/
theorem Diagram.mentions_prune {d : Diagram} {table : String} :
    (d.prune schema).Mentions schema table ↔ d.Mentions schema table := by
  rw [← Diagram.mem_keys_select, ← Diagram.mem_keys_select, Diagram.keys_select,
    Diagram.keys_select, Diagram.entries_prune, Entry.flatMap_tables_kept]

/-- Dropping the entries of tables that are gone changes neither the tables that a diagram shows nor
their places. -/
theorem Diagram.select_prune (d : Diagram) (schema : Schema) :
    (d.prune schema).select schema = d.select schema := by
  refine Registry.ext_get? ?_ fun table ht => ?_
  · rw [Diagram.keys_select, Diagram.keys_select, Diagram.entries_prune, Entry.flatMap_tables_kept]
  · have hmentions := Diagram.mem_keys_select.1 ht
    classical
    rw [Diagram.get?_select, Diagram.get?_select, if_pos hmentions,
      if_pos (Diagram.mentions_prune.1 hmentions), Diagram.get?_stored_prune d hmentions.1]

/-! ## Positions that are written into a diagram -/

/-- Written positions of tables of the schema stay, and the entries that are dropped afterwards are
those that were to be dropped before. -/
theorem Entry.filter_materialize {positions : Positions} {pending : List (String × Position)}
    (hc : ∀ item ∈ pending, schema.contains item.1 = true) (es : List Entry) :
    (Entry.materialize positions pending es).filter (Entry.kept schema)
      = Entry.materialize positions pending (es.filter (Entry.kept schema)) := by
  have hplaced : ∀ items : List (String × Position),
      (∀ item ∈ items, schema.contains item.1 = true) →
      (items.map fun item => Entry.placed item.1 item.2).filter (Entry.kept schema)
        = items.map fun item => Entry.placed item.1 item.2 := by
    intro items hall
    refine List.filter_eq_self.2 fun e he => ?_
    obtain ⟨item, hi, rfl⟩ := List.mem_map.1 he
    exact hall item hi
  induction es generalizing pending with
  | nil =>
    rw [Entry.materialize, List.filter_nil, Entry.materialize]
    exact hplaced pending hc
  | cons e es ih =>
    cases e with
    | wildcard name =>
      have hkept : (Entry.wildcard name).kept schema = true := rfl
      have hmatched : ∀ item ∈ pending.filter fun item => decide (schemaOf item.1 = name),
          schema.contains item.1 = true := fun item hi => hc item (List.mem_filter.1 hi).1
      have hothers : ∀ item ∈ pending.filter fun item => !decide (schemaOf item.1 = name),
          schema.contains item.1 = true := fun item hi => hc item (List.mem_filter.1 hi).1
      rw [List.filter_cons_of_pos hkept, Entry.materialize_wildcard, Entry.materialize_wildcard,
        List.cons_append, List.filter_cons_of_pos hkept, List.filter_append, hplaced _ hmatched,
        ih hothers, List.cons_append]
    | table name x y =>
      have hmoved : ((Entry.table name x y).moveTo positions).kept schema
          = (Entry.table name x y).kept schema := Entry.kept_moveTo positions _
      rw [Entry.materialize_table]
      by_cases hkept : (Entry.table name x y).kept schema = true
      · rw [List.filter_cons_of_pos (hmoved.trans hkept), List.filter_cons_of_pos hkept,
          Entry.materialize_table, ih hc]
      · rw [List.filter_cons_of_neg (hmoved ▸ hkept), List.filter_cons_of_neg hkept, ih hc]

/-- A pruned diagram has the entries of those tables that the schema has. -/
theorem Diagram.mem_tableNames_prune {d : Diagram} {name : String} :
    name ∈ (d.prune schema).tableNames ↔
      name ∈ d.tableNames ∧ schema.contains name = true := by
  constructor
  · intro h
    obtain ⟨e, he, hname⟩ := List.mem_filterMap.1 h
    exact ⟨List.mem_filterMap.2 ⟨e, (List.mem_filter.1 he).1, hname⟩,
      Diagram.contains_of_mem_prune h⟩
  · rintro ⟨h, hc⟩
    obtain ⟨e, he, hname⟩ := List.mem_filterMap.1 h
    exact List.mem_filterMap.2 ⟨e, List.mem_filter.2 ⟨he, by rw [hname]; exact hc⟩, hname⟩

/-- Positions of tables of the schema may be written into a diagram before the entries of other
tables are dropped, or after. -/
theorem Diagram.prune_materialize (d : Diagram) {positions : Positions}
    (h : ∀ name ∈ positions.keys, schema.contains name = true) :
    (d.materialize positions).prune schema = (d.prune schema).materialize positions := by
  have hcontains : ∀ item ∈ positions.items, schema.contains item.1 = true := fun item hi =>
    h item.1 (List.mem_map_of_mem hi)
  have hpending : positions.items.filter (fun item => decide (item.1 ∉ d.tableNames))
      = positions.items.filter fun item => decide (item.1 ∉ (d.prune schema).tableNames) := by
    refine List.filter_congr fun item hi => ?_
    simp only [Diagram.mem_tableNames_prune, hcontains item hi, and_true]
  have hentries : ((d.materialize positions).prune schema).entries
      = ((d.prune schema).materialize positions).entries := calc
    _ = Entry.materialize positions (positions.items.filter fun item => item.1 ∉ d.tableNames)
          (d.entries.filter (Entry.kept schema)) :=
        Entry.filter_materialize (fun item hi => hcontains item (List.mem_filter.1 hi).1) d.entries
    _ = _ := by rw [hpending]; rfl
  exact congrArg (Diagram.mk d.name) hentries

/-! ## Refreshing -/

/-- A refresh of a diagram into which the places of its tables have been written gives what a
refresh of the diagram itself gives. -/
theorem DiagramSet.refresh_insert_materialize
    (hschema : ∀ name, schema.contains name = true → name ∈ schema.tablesIn (schemaOf name))
    {d : Diagram} (diagrams : DiagramSet) (name : String) {g : Generator σ} {positions : Positions}
    {s t : σ}
    (h : (d.select schema).place g s = .ok positions t) {τ : Type} (g' : Generator τ) (u : τ) :
    DiagramSet.refresh (diagrams.insert name (d.materialize positions)) name schema g' u
      = .ok (Picture.draw schema positions,
          diagrams.insert name ((d.prune schema).materialize positions)) u := by
  have hcontains : ∀ table ∈ positions.keys, schema.contains table = true := fun table ht =>
    Diagram.contains_of_mem_select ((Selection.mem_keys_place h table).1 ht)
  have hget := Registry.get?_insert_self diagrams name (d.materialize positions)
  have hplace : ((d.prune schema).select schema).place g s = .ok positions t := by
    rw [Diagram.select_prune, h]
  have hagain := Diagram.place_select_materialize hschema hplace g' u
  unfold refresh
  rw [bind_of_ok (find_eq_ok.2 ⟨hget, rfl⟩)]
  simp only [Diagram.prune_materialize d hcontains]
  rw [bind_of_ok hagain, Diagram.materialize_materialize,
    Registry.insert_insert]
  rfl

end SchemaCanvas
