import SchemaCanvas.Proofs.Picture.Placing

/-!
# The places that a diagram stores

The entries of a diagram store places of tables, the last place of a table counting
(`Diagram.stored`). A selection shows a table of the schema at its stored place as soon as an entry
mentions the table (`Diagram.get?_select`). Pruning keeps the stored places of the tables that stay
(`Diagram.get?_stored_prune`), writing positions into a diagram stores them
(`Diagram.get?_stored_materialize`), and filling a diagram in changes no stored place
(`Diagram.get?_stored_of_fill`).
-/

namespace SchemaCanvas

variable {σ : Type}

/-- The table of an entry together with the place that the entry gives to it. -/
def Entry.placement? : Entry → Option (String × Position)
  | .table name (some x) (some y) => some (name, ⟨x, y⟩)
  | _ => none

/-- A stored place comes from an entry of the table that has both coordinates. -/
theorem Entry.placement?_eq_some {e : Entry} {table : String} {p : Position} :
    e.placement? = some (table, p) ↔ e = .placed table p := by
  constructor
  · intro h
    unfold Entry.placement? at h
    split at h
    · cases h; rfl
    · cases h
  · rintro rfl
    rfl

@[simp] theorem Entry.tableName?_moveTo (positions : Positions) (e : Entry) :
    (e.moveTo positions).tableName? = e.tableName? := by
  cases e with
  | wildcard schema => rfl
  | table name x y => cases h : positions.get? name <;> simp [Entry.moveTo, h, tableName?, placed]

@[simp] theorem Entry.tableName?_fill (positions : Positions) (e : Entry) :
    (e.fill positions).tableName? = e.tableName? := by
  unfold Entry.fill
  split
  · rfl
  · exact Entry.tableName?_moveTo positions e

/-- The places that a diagram stores are those in its entries, of which later ones replace earlier
ones. -/
theorem Diagram.stored_eq (d : Diagram) :
    d.stored = Registry.ofList (d.entries.filterMap Entry.placement?) := by
  unfold Diagram.stored
  congr 2

/-- The last place that entries give to a table, looked up from the last entry on. -/
theorem Diagram.get?_stored (d : Diagram) (table : String) :
    d.stored.get? table
      = Registry.lookup table (d.entries.reverse.filterMap Entry.placement?) := by
  rw [Diagram.stored_eq, Registry.get?_ofList, ← List.filterMap_reverse]

/-! ## Entries from the last one on

The look-up of a stored place walks the entries from the last one on. Lists of entries in this
section are reversed, so that the walk is the recursion on the list.
-/

/-- An entry without a placement of the table is passed over. -/
theorem lookup_placements_cons {table : String} {e : Entry} {es : List Entry}
    (h : ∀ p, e ≠ .placed table p) :
    Registry.lookup table ((e :: es).filterMap Entry.placement?)
      = Registry.lookup table (es.filterMap Entry.placement?) := by
  cases hp : e.placement? with
  | none => rw [List.filterMap_cons_none hp]
  | some item =>
    obtain ⟨name, p⟩ := item
    rw [List.filterMap_cons_some hp, Registry.lookup, if_neg]
    rintro rfl
    exact h p (Entry.placement?_eq_some.1 hp)

/-- An entry in front that gives a place to the table is the first one that does. -/
theorem lookup_placements_placed (table : String) (p : Position) (es : List Entry) :
    Registry.lookup table ((Entry.placed table p :: es).filterMap Entry.placement?) = some p := by
  simp [Entry.placed, Entry.placement?, Registry.lookup]

/-- Entries that all place a table at one place, and one of which does place it, store that
place. -/
theorem lookup_placements_of_forall {table : String} {p : Position} {es : List Entry}
    (hall : ∀ e ∈ es, e.tableName? = some table → e = .placed table p)
    (hsome : .placed table p ∈ es) :
    Registry.lookup table (es.filterMap Entry.placement?) = some p := by
  induction es with
  | nil => cases hsome
  | cons e es ih =>
    by_cases he : e = .placed table p
    · rw [he, lookup_placements_placed]
    · have hne : ∀ q, e ≠ .placed table q := fun q hq =>
        he (hall e (List.mem_cons_self ..) (by rw [hq]; rfl))
      rw [lookup_placements_cons hne]
      refine ih (fun e' he' => hall e' (List.mem_cons_of_mem _ he')) ?_
      rcases List.mem_cons.1 hsome with h | h
      · exact absurd h.symm he
      · exact h

/-- Dropping entries of other tables changes nothing for a table. -/
theorem lookup_placements_filter {table : String} {keep : Entry → Bool}
    (h : ∀ e : Entry, e.tableName? = some table → keep e = true) (es : List Entry) :
    Registry.lookup table ((es.filter keep).filterMap Entry.placement?)
      = Registry.lookup table (es.filterMap Entry.placement?) := by
  induction es with
  | nil => rfl
  | cons e es ih =>
    by_cases hk : keep e = true
    · rw [List.filter_cons_of_pos hk]
      by_cases he : ∃ p, e = .placed table p
      · obtain ⟨p, rfl⟩ := he
        rw [lookup_placements_placed, lookup_placements_placed]
      · have hne : ∀ p, e ≠ .placed table p := fun p hp => he ⟨p, hp⟩
        rw [lookup_placements_cons hne, lookup_placements_cons hne, ih]
    · rw [List.filter_cons_of_neg hk, ih, lookup_placements_cons]
      rintro p rfl
      exact hk (h _ rfl)

/-- Filling places in keeps the place of a table when the table is filled in at that very place: an
entry that had none comes to store what the entries before it store. -/
theorem lookup_placements_fill {table : String} {p : Position} {positions : Positions}
    (hp : positions.get? table = some p) {es : List Entry}
    (h : Registry.lookup table (es.filterMap Entry.placement?) = some p) :
    Registry.lookup table ((es.map (Entry.fill positions)).filterMap Entry.placement?)
      = some p := by
  induction es with
  | nil => cases h
  | cons e es ih =>
    rw [List.map_cons]
    by_cases he : e.tableName? = some table
    · have hfill : Entry.fill positions e = .placed table p := by
        rcases e with s | ⟨name, x, y⟩
        · cases he
        · obtain rfl : name = table := Option.some.inj he
          rcases x with _ | x <;> rcases y with _ | y
          · simp [Entry.fill, Entry.position?, Entry.moveTo, hp]
          · simp [Entry.fill, Entry.position?, Entry.moveTo, hp]
          · simp [Entry.fill, Entry.position?, Entry.moveTo, hp]
          · have hl := lookup_placements_placed name ⟨x, y⟩ es
            simp only [Entry.placed] at hl
            rw [hl] at h
            cases h
            rfl
      rw [hfill, lookup_placements_placed]
    · have hne : ∀ q, e ≠ .placed table q := by
        rintro q rfl
        exact he rfl
      rw [lookup_placements_cons hne] at h
      rw [lookup_placements_cons, ih h]
      intro q hq
      rw [← Entry.tableName?_fill positions, hq] at he
      exact he rfl

/-! ## Selections -/

/-- The diagram mentions a table of the schema, in an entry of its own or through a wildcard. -/
def Diagram.Mentions (d : Diagram) (schema : Schema) (table : String) : Prop :=
  schema.contains table = true ∧ ∃ e ∈ d.entries, table ∈ e.mentions schema

/-- A table that is added is selected without a place, unless it is selected already or the schema
does not have it. -/
theorem Selection.get?_add (schema : Schema) (s : Selection) (name table : String) :
    (s.add schema name).get? table
      = (s.get? table).or
          (if table = name ∧ schema.contains name = true then some none else none) := by
  unfold Selection.add Registry.insertNew
  by_cases hc : schema.contains name = true
  · rw [if_pos hc]
    by_cases hk : name ∈ s.keys
    · rw [if_pos hk]
      by_cases ht : table = name
      · obtain ⟨v, hv⟩ := Registry.exists_get? hk
        simp [ht, hv]
      · simp [ht]
    · rw [if_neg hk, Registry.get?_insert]
      by_cases ht : table = name
      · subst ht
        simp [Registry.get?_eq_none.2 hk, hc]
      · simp [ht]
  · simp [hc]

/-- Adding tables touches no table that is there, and adds each new one without a place. -/
theorem Selection.get?_foldl_add (schema : Schema) (names : List String) (s : Selection)
    (table : String) :
    (names.foldl (Selection.add schema) s).get? table
      = (s.get? table).or
          (if table ∈ names ∧ schema.contains table = true then some none else none) := by
  induction names generalizing s with
  | nil => simp
  | cons name names ih =>
    rw [List.foldl_cons, ih, Selection.get?_add, Option.or_assoc]
    congr 1
    by_cases ht : table = name
    · subst ht
      by_cases hc : schema.contains table = true <;> simp [hc]
    · simp [ht]

/-- The tables that the entries mention, before any place is known. -/
theorem Selection.get?_foldl_mention (schema : Schema) (es : List Entry) (s : Selection)
    (table : String) :
    (es.foldl (Selection.mention schema) s).get? table
      = (s.get? table).or
          (if (∃ e ∈ es, table ∈ e.mentions schema) ∧ schema.contains table = true
            then some none else none) := by
  induction es generalizing s with
  | nil => simp
  | cons e es ih =>
    rw [List.foldl_cons, ih, Selection.mention, Selection.get?_foldl_add, Option.or_assoc]
    congr 1
    by_cases hc : schema.contains table = true
    · by_cases he : table ∈ e.mentions schema <;> simp [hc, he]
    · simp [hc]

/-- The place in an entry replaces that of its table, if the table is selected. -/
theorem Selection.get?_overlay (s : Selection) (e : Entry) (table : String) :
    (s.overlay e).get? table
      = (s.get? table).map fun place =>
          (Registry.lookup table (e.placement?.toList)).or place := by
  rcases e with w | ⟨name, _ | x, _ | y⟩
  · simp [Selection.overlay, Entry.placement?, Registry.lookup]
  · simp [Selection.overlay, Entry.placement?, Registry.lookup]
  · simp [Selection.overlay, Entry.placement?, Registry.lookup]
  · simp [Selection.overlay, Entry.placement?, Registry.lookup]
  · simp only [Selection.overlay, Entry.placement?, Option.toList_some, Registry.lookup]
    by_cases ht : table = name
    · subst ht
      by_cases hk : table ∈ s.keys
      · obtain ⟨v, hv⟩ := Registry.exists_get? hk
        simp [Registry.contains_iff.2 hk, hv]
      · have hc : ¬ s.contains table = true := fun h => hk (Registry.contains_iff.1 h)
        rw [if_neg hc, Registry.get?_eq_none.2 hk]
        rfl
    · rw [if_neg (Ne.symm ht)]
      split
      · rw [Registry.get?_insert_of_ne ht]
        simp
      · simp

/-- Laying the entries over a selection gives each of its tables the last place that they store. -/
theorem Selection.get?_foldl_overlay (es : List Entry) (s : Selection) (table : String) :
    (es.foldl Selection.overlay s).get? table
      = (s.get? table).map fun place =>
          (Registry.lookup table (es.reverse.filterMap Entry.placement?)).or place := by
  induction es generalizing s with
  | nil => simp [Registry.lookup]
  | cons e es ih =>
    rw [List.foldl_cons, ih, Selection.get?_overlay, Option.map_map]
    congr 1
    funext place
    rw [List.reverse_cons, List.filterMap_append, Registry.lookup_append, Option.or_assoc]
    cases hp : e.placement? <;> simp [hp]

/-- A diagram shows the tables of the schema that it mentions, at the places that it stores. -/
theorem Diagram.get?_select (d : Diagram) (schema : Schema) (table : String)
    [Decidable (d.Mentions schema table)] :
    (d.select schema).get? table
      = if d.Mentions schema table then some (d.stored.get? table) else none := by
  rw [Diagram.select, Selection.get?_foldl_overlay, Selection.get?_foldl_mention,
    Diagram.get?_stored]
  by_cases h : d.Mentions schema table
  · rw [if_pos h, if_pos ⟨h.2, h.1⟩]
    simp
  · rw [if_neg h, if_neg fun h' => h ⟨h'.2, h'.1⟩]
    simp

/-- The tables that a diagram selects are those that it mentions. -/
theorem Diagram.mem_keys_select {d : Diagram} {schema : Schema} {table : String} :
    table ∈ (d.select schema).keys ↔ d.Mentions schema table := by
  classical
  rw [← Registry.isSome_get?, Diagram.get?_select]
  by_cases h : d.Mentions schema table <;> simp [h]

/-- A stored place is that of an entry. -/
theorem Diagram.placed_mem_of_stored {d : Diagram} {table : String} {p : Position}
    (h : d.stored.get? table = some p) : .placed table p ∈ d.entries := by
  rw [Diagram.get?_stored] at h
  obtain ⟨e, he, hp⟩ := List.mem_filterMap.1 (Registry.mem_of_lookup h)
  rw [Entry.placement?_eq_some] at hp
  exact hp ▸ List.mem_reverse.1 he

/-- A table of the schema that a diagram stores a place of is shown there. -/
theorem Diagram.get?_select_of_stored {d : Diagram} {schema : Schema} {table : String}
    {p : Position} (hc : schema.contains table = true) (h : d.stored.get? table = some p) :
    (d.select schema).get? table = some (some p) := by
  have hm : d.Mentions schema table :=
    ⟨hc, .placed table p, Diagram.placed_mem_of_stored h, List.mem_singleton.2 rfl⟩
  classical
  rw [Diagram.get?_select, if_pos hm, h]

/-! ## Pruning, materializing and filling in -/

/-- Pruning drops no stored place of a table that the schema has. -/
theorem Diagram.get?_stored_prune (d : Diagram) {schema : Schema} {table : String}
    (hc : schema.contains table = true) :
    (d.prune schema).stored.get? table = d.stored.get? table := by
  rw [Diagram.get?_stored, Diagram.get?_stored, Diagram.prune, ← List.filter_reverse]
  refine lookup_placements_filter (fun e he => ?_) _
  rw [he]
  exact hc

/-- A wildcard takes the pending items of its schema. -/
theorem Entry.materialize_wildcard (positions : Positions) (pending : List (String × Position))
    (schema : String) (es : List Entry) :
    Entry.materialize positions pending (.wildcard schema :: es)
      = .wildcard schema ::
          (pending.filter fun item => schemaOf item.1 = schema).map
            (fun item => .placed item.1 item.2) ++
          Entry.materialize positions
            (pending.filter fun item => !decide (schemaOf item.1 = schema)) es := by
  rw [Entry.materialize, List.partition_eq_filter_filter]
  rfl

/-- Writing positions moves an entry of a table and goes on behind it. -/
theorem Entry.materialize_table (positions : Positions) (pending : List (String × Position))
    (name : String) (x y : Option Number) (es : List Entry) :
    Entry.materialize positions pending (.table name x y :: es)
      = (Entry.table name x y).moveTo positions :: Entry.materialize positions pending es := by
  rw [Entry.materialize]
  exact fun _ h => nomatch h

/-- An entry after materializing is an old one that took its place, or a pending item's. -/
theorem Entry.mem_materialize {positions : Positions} {pending : List (String × Position)}
    {es : List Entry} {e : Entry} :
    e ∈ Entry.materialize positions pending es ↔
      (∃ e' ∈ es, e = e'.moveTo positions) ∨ ∃ item ∈ pending, e = .placed item.1 item.2 := by
  induction es generalizing pending with
  | nil => simp [Entry.materialize, eq_comm]
  | cons e' es ih =>
    cases e' with
    | table name x y =>
      rw [Entry.materialize_table, List.mem_cons, ih]
      simp only [List.mem_cons, exists_eq_or_imp, or_assoc]
    | wildcard schema =>
      rw [Entry.materialize_wildcard, List.cons_append, List.mem_cons, List.mem_append, ih]
      simp only [List.mem_map, List.mem_filter, List.mem_cons, exists_eq_or_imp]
      constructor
      · rintro (h | ⟨item, ⟨hi, -⟩, rfl⟩ | ⟨e', he', rfl⟩ | ⟨item, ⟨hi, -⟩, rfl⟩)
        · exact .inl (.inl h)
        · exact .inr ⟨item, hi, rfl⟩
        · exact .inl (.inr ⟨e', he', rfl⟩)
        · exact .inr ⟨item, hi, rfl⟩
      · rintro ((h | ⟨e', he', rfl⟩) | ⟨item, hi, rfl⟩)
        · exact .inl h
        · exact .inr (.inr (.inl ⟨e', he', rfl⟩))
        · by_cases hs : schemaOf item.1 = schema
          · exact .inr (.inl ⟨item, ⟨hi, by simp [hs]⟩, rfl⟩)
          · exact .inr (.inr (.inr ⟨item, ⟨hi, by simp [hs]⟩, rfl⟩))

/-- An entry of a table with a position is moved there. -/
theorem Entry.moveTo_of_get? {positions : Positions} {table : String} {p : Position}
    (hp : positions.get? table = some p) {e : Entry} (he : e.tableName? = some table) :
    e.moveTo positions = .placed table p := by
  cases e with
  | wildcard schema => cases he
  | table name x y =>
    obtain rfl : name = table := Option.some.inj he
    simp only [Entry.moveTo, hp]

/-- Positions that are written into a diagram are stored by it. -/
theorem Diagram.get?_stored_materialize (d : Diagram) {positions : Positions} {table : String}
    {p : Position} (hp : positions.get? table = some p) :
    (d.materialize positions).stored.get? table = some p := by
  rw [Diagram.get?_stored]
  apply lookup_placements_of_forall
  · intro e he ht
    rcases Entry.mem_materialize.1 (List.mem_reverse.1 he) with ⟨e', -, rfl⟩ | ⟨item, hi, rfl⟩
    · rw [Entry.tableName?_moveTo] at ht
      exact Entry.moveTo_of_get? hp ht
    · obtain rfl : item.1 = table := Option.some.inj ht
      have hi := Registry.get?_eq_some.2 (List.mem_filter.1 hi).1
      rw [hp, Option.some.injEq] at hi
      rw [hi]
  · rw [List.mem_reverse, Diagram.materialize, Entry.mem_materialize]
    by_cases hm : table ∈ d.tableNames
    · obtain ⟨e, he, ht⟩ := List.mem_filterMap.1 hm
      exact .inl ⟨e, he, (Entry.moveTo_of_get? hp ht).symm⟩
    · exact .inr
        ⟨(table, p), List.mem_filter.2 ⟨Registry.get?_eq_some.1 hp, by simpa using hm⟩, rfl⟩

/-- Writing positions of tables that a diagram shows into it makes it show no others. -/
theorem Diagram.mentions_materialize {d : Diagram} {positions : Positions} {schema : Schema}
    (h : ∀ name ∈ positions.keys, d.Mentions schema name) {table : String} :
    (d.materialize positions).Mentions schema table ↔ d.Mentions schema table := by
  have mentions_moveTo : ∀ e : Entry, (e.moveTo positions).mentions schema = e.mentions schema := by
    intro e
    cases e with
    | wildcard name => rfl
    | table name x y =>
      cases hp : positions.get? name <;> simp [Entry.moveTo, hp, Entry.placed, Entry.mentions]
  constructor
  · rintro ⟨hc, e, he, hm⟩
    rcases Entry.mem_materialize.1 he with ⟨e', he', rfl⟩ | ⟨item, hi, rfl⟩
    · exact ⟨hc, e', he', mentions_moveTo e' ▸ hm⟩
    · rw [List.mem_singleton.1 hm]
      exact h item.1 (List.mem_map_of_mem (List.mem_filter.1 hi).1)
  · rintro ⟨hc, e, he, hm⟩
    exact ⟨hc, e.moveTo positions, Entry.mem_materialize.2 (.inl ⟨e, he, rfl⟩),
      mentions_moveTo e ▸ hm⟩

/-- A diagram that stores a place of every table with an entry is filled in as it is. -/
theorem Diagram.fill_of_stored {d : Diagram} (h : ∀ name ∈ d.tableNames, name ∈ d.stored.keys)
    (g : Generator σ) (s : σ) : d.fill g s = .ok d s := by
  have hmissing : d.tableNames.filter (fun name => !d.stored.contains name) = [] :=
    List.filter_eq_nil_iff.2 fun name hn => by simp [Registry.contains_iff.2 (h name hn)]
  simp only [Diagram.fill, hmissing, distinct, if_true]
  rfl

/-- What filling a diagram in does: a diagram that stores a place of every table with an entry stays
as it is; else the generator is asked for places of the other tables, and the entries without a
place are filled in from both. -/
theorem Diagram.fill_eq_ok {d filled : Diagram} {g : Generator σ} {s t : σ}
    (h : d.fill g s = .ok filled t) :
    ((∀ name ∈ d.tableNames, name ∈ d.stored.keys) ∧ filled = d) ∨
      ∃ missing more positions, missing ≠ [] ∧
        (∀ name, name ∈ missing ↔ name ∈ d.tableNames ∧ name ∉ d.stored.keys) ∧
        g.placeAll d.stored missing s = .ok more t ∧
        (∀ name, positions.get? name = (d.stored.get? name).or (more.get? name)) ∧
        filled = { d with entries := d.entries.map (Entry.fill positions) } := by
  have hmissing : ∀ name, name ∈ distinct (d.tableNames.filter fun name => !d.stored.contains name)
      ↔ name ∈ d.tableNames ∧ name ∉ d.stored.keys := by
    intro name
    simp [Registry.contains]
  unfold Diagram.fill at h
  split at h
  · next hnil =>
    cases h
    refine .inl ⟨fun name hn => Decidable.byContradiction fun hk => ?_, rfl⟩
    have hname := (hmissing name).2 ⟨hn, hk⟩
    rw [hnil] at hname
    cases hname
  · next hne =>
    obtain ⟨more, u, hm, h⟩ := bind_eq_ok.1 h
    cases h
    refine .inr ⟨_, more, _, hne, hmissing, hm, fun name => ?_, rfl⟩
    rw [Registry.get?_foldl_items]
    by_cases hk : name ∈ more.keys
    · have hstored := ((hmissing name).1 ((Generator.mem_keys_placeAll hm name).1 hk)).2
      rw [Registry.get?_eq_none.2 hstored, Option.or_none, Option.none_or]
    · rw [Registry.get?_eq_none.2 hk, Option.or_none, Option.none_or]

/-- Filling a diagram in changes no stored place. -/
theorem Diagram.get?_stored_of_fill {d filled : Diagram} {g : Generator σ} {s t : σ}
    (h : d.fill g s = .ok filled t) {table : String} {p : Position}
    (hp : d.stored.get? table = some p) : filled.stored.get? table = some p := by
  rcases Diagram.fill_eq_ok h with ⟨-, rfl⟩ | ⟨_, more, positions, -, -, -, hpositions, rfl⟩
  · exact hp
  · have hs : positions.get? table = some p := by rw [hpositions, hp, Option.some_or]
    rw [Diagram.get?_stored] at hp ⊢
    rw [← List.map_reverse]
    exact lookup_placements_fill hs hp

/-! ## Sets of diagrams -/

/-- The diagram called `name` of the set stores the place of a table. -/
def DiagramSet.Stores (diagrams : DiagramSet) (name table : String) (p : Position) : Prop :=
  ∃ d, diagrams.get? name = some d ∧ d.stored.get? table = some p

/-- Replacing one diagram leaves what the others store. -/
theorem DiagramSet.Stores.insert_of_ne {diagrams : DiagramSet} {name other table : String}
    {p : Position} (h : diagrams.Stores name table p) (hne : name ≠ other) (d : Diagram) :
    DiagramSet.Stores (diagrams.insert other d) name table p := by
  obtain ⟨d', hd, hp⟩ := h
  exact ⟨d', (Registry.get?_insert_of_ne hne diagrams d).trans hd, hp⟩

/-- A diagram that is put into a set stores there what it stores. -/
theorem DiagramSet.stores_insert_self (diagrams : DiagramSet) (name : String) {d : Diagram}
    {table : String} {p : Position} (h : d.stored.get? table = some p) :
    DiagramSet.Stores (diagrams.insert name d) name table p :=
  ⟨d, Registry.get?_insert_self .., h⟩

/-- Filling in goes through the diagrams one by one, each under its own key. -/
theorem DiagramSet.map_fst_fillItems {g : Generator σ} {items filled : List (String × Diagram)}
    {s t : σ} (h : DiagramSet.fillItems g items s = .ok filled t) :
    filled.map Prod.fst = items.map Prod.fst := by
  induction items generalizing filled s with
  | nil => cases h; rfl
  | cons item items ih =>
    obtain ⟨d, u, -, h⟩ := bind_eq_ok.1 h
    obtain ⟨more, v, hm, h⟩ := bind_eq_ok.1 h
    cases h
    simp [ih hm]

/-- Filling in places fills in those of each diagram, under its name. -/
theorem DiagramSet.lookup_fillItems {g : Generator σ} {items filled : List (String × Diagram)}
    {s t : σ} (h : DiagramSet.fillItems g items s = .ok filled t) {name : String} {d : Diagram}
    (hd : Registry.lookup name items = some d) :
    ∃ d' u v, Registry.lookup name filled = some d' ∧ d.fill g u = .ok d' v := by
  induction items generalizing filled s with
  | nil => cases hd
  | cons item items ih =>
    obtain ⟨d₁, u, h₁, h⟩ := bind_eq_ok.1 h
    obtain ⟨more, v, hm, h⟩ := bind_eq_ok.1 h
    cases h
    by_cases hn : item.1 = name
    · rw [Registry.lookup, if_pos hn, Option.some.injEq] at hd
      subst hd
      exact ⟨d₁, s, u, by simp [Registry.lookup, hn], h₁⟩
    · rw [Registry.lookup, if_neg hn] at hd
      obtain ⟨d', u', v', hl, hf⟩ := ih hm hd
      exact ⟨d', u', v', by simpa [Registry.lookup, hn] using hl, hf⟩

/-- A diagram of a set is filled in under its name. -/
theorem DiagramSet.get?_of_fill {diagrams filled : DiagramSet} {g : Generator σ} {s t : σ}
    (h : diagrams.fill g s = .ok filled t) {name : String} {d : Diagram}
    (hd : diagrams.get? name = some d) :
    ∃ d' u v, filled.get? name = some d' ∧ d.fill g u = .ok d' v := by
  obtain ⟨items, u, hi, h⟩ := bind_eq_ok.1 h
  cases h
  have hn : (items.map Prod.fst).Nodup := by
    rw [DiagramSet.map_fst_fillItems hi]
    exact diagrams.nodup_keys
  obtain ⟨d', u, v, hl, hf⟩ := DiagramSet.lookup_fillItems hi hd
  refine ⟨d', u, v, ?_, hf⟩
  rw [Registry.get?, Registry.items_ofList hn, hl]

/-- Filling in places keeps the diagrams under their names and in their order. -/
theorem DiagramSet.keys_of_fill {diagrams filled : DiagramSet} {g : Generator σ} {s t : σ}
    (h : diagrams.fill g s = .ok filled t) : filled.keys = diagrams.keys := by
  obtain ⟨items, u, hi, h⟩ := bind_eq_ok.1 h
  cases h
  have hk := DiagramSet.map_fst_fillItems hi
  rw [Registry.keys, Registry.items_ofList (by rw [hk]; exact diagrams.nodup_keys), hk]
  rfl

/-- Diagrams that store a place of every table with an entry are filled in as they are. -/
theorem DiagramSet.fill_of_stored {diagrams : DiagramSet}
    (h : ∀ d ∈ diagrams.values, ∀ name ∈ d.tableNames, name ∈ d.stored.keys) (g : Generator σ)
    (s : σ) : diagrams.fill g s = .ok diagrams s := by
  have hitems : ∀ items : List (String × Diagram),
      (∀ item ∈ items, ∀ name ∈ item.2.tableNames, name ∈ item.2.stored.keys) →
      DiagramSet.fillItems g items s = .ok items s := by
    intro items hall
    induction items with
    | nil => rfl
    | cons item items ih =>
      have hfill := item.2.fill_of_stored (hall item List.mem_cons_self) g s
      have hmore := ih fun i hi => hall i (List.mem_cons_of_mem _ hi)
      rw [DiagramSet.fillItems, bind_of_ok hfill, bind_of_ok hmore]
      rfl
  have hfill := hitems diagrams.items fun item hi => h item.2 (List.mem_map_of_mem hi)
  rw [DiagramSet.fill, bind_of_ok hfill, Registry.ofList_items]
  rfl

/-- Filling a set of diagrams in changes no stored place of any of them. -/
theorem DiagramSet.Stores.of_fill {diagrams filled : DiagramSet} {g : Generator σ} {s t : σ}
    (hf : diagrams.fill g s = .ok filled t) {name table : String} {p : Position}
    (h : diagrams.Stores name table p) : filled.Stores name table p := by
  obtain ⟨d, hd, hp⟩ := h
  obtain ⟨d', u, v, hd', hf'⟩ := DiagramSet.get?_of_fill hf hd
  exact ⟨d', hd', Diagram.get?_stored_of_fill hf' hp⟩

end SchemaCanvas
