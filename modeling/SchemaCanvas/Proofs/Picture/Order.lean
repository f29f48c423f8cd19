import SchemaCanvas.Proofs.Picture.Stored

/-!
# The order in which tables are shown

A diagram shows its tables in the order in which its entries first mention them
(`Diagram.keys_select`), and placing them keeps this order (`Selection.keys_place`). Writing
positions of these tables into the diagram puts every new entry behind a mention of its table, so
the order stays the same (`Diagram.keys_select_materialize`); filling places in adds no entry
(`Diagram.keys_select_of_fill`).
-/

namespace SchemaCanvas

variable {σ : Type} {schema : Schema}

/-- The tables of the schema that an entry mentions. -/
def Entry.tables (schema : Schema) (e : Entry) : List String :=
  (e.mentions schema).filter schema.contains

/-! ## Selections -/

/-- Adding a table lists it behind those that are selected, if the schema has it and it is not
selected yet. -/
theorem Selection.keys_add {s : Selection} {names : List String} (hs : s.keys = distinct names)
    (name : String) :
    (s.add schema name).keys = distinct (names ++ [name].filter schema.contains) := by
  unfold Selection.add Registry.insertNew
  by_cases hc : schema.contains name = true
  · rw [if_pos hc, List.filter_cons_of_pos hc, List.filter_nil, distinct_concat]
    by_cases hk : name ∈ names
    · have hkey : name ∈ s.keys := by rwa [hs, mem_distinct]
      rw [if_pos hkey, if_pos hk, hs]
    · have hkey : name ∉ s.keys := by rwa [hs, mem_distinct]
      rw [if_neg hkey, if_neg hk, Registry.keys_insert, if_neg hkey, hs]
  · rw [if_neg hc, List.filter_cons_of_neg hc, List.filter_nil, List.append_nil, hs]

/-- Adding tables one after another lists them in that order, each once. -/
theorem Selection.keys_foldl_add {s : Selection} {names : List String}
    (hs : s.keys = distinct names) (more : List String) :
    (more.foldl (Selection.add schema) s).keys
      = distinct (names ++ more.filter schema.contains) := by
  induction more generalizing s names with
  | nil => simpa using hs
  | cons name more ih =>
    rw [List.foldl_cons, ih (Selection.keys_add hs name), List.append_assoc,
      ← List.filter_append, List.singleton_append]

/-- The entries of a diagram select their tables in order, each once. -/
theorem Selection.keys_foldl_mention {s : Selection} {names : List String}
    (hs : s.keys = distinct names) (es : List Entry) :
    (es.foldl (Selection.mention schema) s).keys
      = distinct (names ++ es.flatMap (Entry.tables schema)) := by
  induction es generalizing s names with
  | nil => simpa using hs
  | cons e es ih =>
    have hmention : (s.mention schema e).keys = distinct (names ++ e.tables schema) :=
      Selection.keys_foldl_add hs (e.mentions schema)
    rw [List.foldl_cons, ih hmention, List.append_assoc, List.flatMap_cons]

/-- The place in an entry does not change which tables are selected. -/
theorem Selection.keys_overlay (s : Selection) (e : Entry) : (s.overlay e).keys = s.keys := by
  unfold Selection.overlay
  split
  · split
    · next h => rw [Registry.keys_insert, if_pos (Registry.contains_iff.1 h)]
    · rfl
  · rfl

/-- The places in all entries do not change which tables are selected, either. -/
theorem Selection.keys_foldl_overlay (es : List Entry) (s : Selection) :
    (es.foldl Selection.overlay s).keys = s.keys := by
  induction es generalizing s with
  | nil => rfl
  | cons e es ih => rw [List.foldl_cons, ih, Selection.keys_overlay]

/-- The tables of a diagram stand in the order in which its entries first mention them. -/
theorem Diagram.keys_select (d : Diagram) (schema : Schema) :
    (d.select schema).keys = distinct (d.entries.flatMap (Entry.tables schema)) := by
  have hempty : (∅ : Selection).keys = distinct [] := rfl
  rw [Diagram.select, Selection.keys_foldl_overlay, Selection.keys_foldl_mention hempty,
    List.nil_append]

/-- Placing the tables of a selection keeps their order. -/
theorem Selection.keys_place {sel : Selection} {g : Generator σ} {positions : Positions} {s t : σ}
    (h : sel.place g s = .ok positions t) : positions.keys = sel.keys := by
  obtain ⟨more, hm, rfl⟩ := Selection.place_eq_ok.1 h
  refine Registry.keys_filterMap fun name place hplace => ?_
  cases place with
  | some p => rfl
  | none =>
    have hk := (Generator.mem_keys_placeAll hm name).2 (Selection.mem_unplaced.2 hplace)
    exact Registry.isSome_get?.2 hk

/-! ## Positions that are written into a diagram -/

/-- Moving an entry to a position does not change which tables it mentions. -/
theorem Entry.tables_moveTo (positions : Positions) (e : Entry) :
    (e.moveTo positions).tables schema = e.tables schema := by
  cases e with
  | wildcard name => rfl
  | table name x y => cases h : positions.get? name <;> simp [moveTo, h, placed, tables, mentions]

/-- Items of tables of the schema mention just these. -/
theorem Entry.flatMap_tables_placed {items : List (String × Position)}
    (h : ∀ item ∈ items, schema.contains item.1 = true) :
    (items.map fun item => Entry.placed item.1 item.2).flatMap (Entry.tables schema)
      = items.map Prod.fst := by
  induction items with
  | nil => rfl
  | cons item items ih =>
    have hitem : (Entry.placed item.1 item.2).tables schema = [item.1] :=
      List.filter_cons_of_pos (h item List.mem_cons_self)
    rw [List.map_cons, List.flatMap_cons, hitem, ih fun i hi => h i (List.mem_cons_of_mem _ hi)]
    rfl

/-- Items that are put behind entries that mention their tables do not change the order in which
tables are first mentioned: `before` holds the tables that have been mentioned so far. A wildcard
mentions every table of its schema, so the items that are put after it come too late. -/
theorem Entry.distinct_tables_materialize
    (hschema : ∀ name, schema.contains name = true → name ∈ schema.tablesIn (schemaOf name))
    (positions : Positions) (before : List String) (es : List Entry)
    {pending : List (String × Position)} (hc : ∀ item ∈ pending, schema.contains item.1 = true)
    (hm : ∀ item ∈ pending, item.1 ∈ before ++ es.flatMap (Entry.tables schema)) :
    distinct (before ++ (Entry.materialize positions pending es).flatMap (Entry.tables schema))
      = distinct (before ++ es.flatMap (Entry.tables schema)) := by
  induction es generalizing pending before with
  | nil =>
    rw [Entry.materialize, Entry.flatMap_tables_placed hc, List.flatMap_nil, List.append_nil]
    refine distinct_append_of_subset fun name hn => ?_
    obtain ⟨item, hi, rfl⟩ := List.mem_map.1 hn
    simpa using hm item hi
  | cons e es ih =>
    cases e with
    | table name x y =>
      rw [Entry.materialize_table, List.flatMap_cons, List.flatMap_cons, Entry.tables_moveTo,
        ← List.append_assoc, ← List.append_assoc]
      refine ih _ hc fun item hi => ?_
      rw [List.append_assoc, ← List.flatMap_cons]
      exact hm item hi
    | wildcard name =>
      have hmatched : ∀ item ∈ pending.filter fun item => decide (schemaOf item.1 = name),
          schema.contains item.1 = true := fun item hi => hc item (List.mem_filter.1 hi).1
      have hsubset : (pending.filter fun item => decide (schemaOf item.1 = name)).map Prod.fst
          ⊆ before ++ (Entry.wildcard name).tables schema := by
        intro table ht
        obtain ⟨item, hi, rfl⟩ := List.mem_map.1 ht
        obtain ⟨hi, hs⟩ := List.mem_filter.1 hi
        have htable := hschema item.1 (hc item hi)
        rw [of_decide_eq_true hs] at htable
        exact List.mem_append_right _ (List.mem_filter.2 ⟨htable, hc item hi⟩)
      rw [Entry.materialize_wildcard, List.cons_append, List.flatMap_cons, List.flatMap_append,
        Entry.flatMap_tables_placed hmatched, List.flatMap_cons, ← List.append_assoc,
        ← List.append_assoc, ← List.append_assoc, ih,
        distinct_append_append_of_subset hsubset]
      · exact fun item hi => hc item (List.mem_filter.1 hi).1
      · intro item hi
        have hmention := hm item (List.mem_filter.1 hi).1
        rw [List.flatMap_cons, ← List.append_assoc] at hmention
        rcases List.mem_append.1 hmention with h | h
        · exact List.mem_append_left _ (List.mem_append_left _ h)
        · exact List.mem_append_right _ h

/-- Writing positions of tables that a diagram shows into it keeps their order. -/
theorem Diagram.keys_select_materialize
    (hschema : ∀ name, schema.contains name = true → name ∈ schema.tablesIn (schemaOf name))
    {d : Diagram} {positions : Positions} (h : ∀ name ∈ positions.keys, d.Mentions schema name) :
    ((d.materialize positions).select schema).keys = (d.select schema).keys := by
  rw [Diagram.keys_select, Diagram.keys_select]
  refine Entry.distinct_tables_materialize hschema positions [] d.entries ?_ ?_
  · intro item hi
    exact (h item.1 (List.mem_map_of_mem (List.mem_filter.1 hi).1)).1
  · intro item hi
    have hkey := Diagram.mem_keys_select.2 (h item.1 (List.mem_map_of_mem (List.mem_filter.1 hi).1))
    rw [Diagram.keys_select, mem_distinct] at hkey
    exact hkey

/-! ## Places that are filled in -/

/-- Filling in its place does not change which tables an entry mentions. -/
theorem Entry.tables_fill (positions : Positions) (e : Entry) :
    (e.fill positions).tables schema = e.tables schema := by
  unfold Entry.fill
  split
  · rfl
  · exact Entry.tables_moveTo positions e

/-- Filling a diagram in keeps the tables that it shows, and their order. -/
theorem Diagram.keys_select_of_fill {d filled : Diagram} {g : Generator σ} {s t : σ}
    (h : d.fill g s = .ok filled t) : (filled.select schema).keys = (d.select schema).keys := by
  rcases Diagram.fill_eq_ok h with ⟨-, rfl⟩ | ⟨_, more, positions, -, -, -, -, rfl⟩
  · rfl
  · rw [Diagram.keys_select, Diagram.keys_select, List.flatMap_map]
    simp only [Entry.tables_fill]

end SchemaCanvas
