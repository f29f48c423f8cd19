import SchemaCanvas.Proofs.Picture.Order
import SchemaCanvas.Proofs.Picture.Shown
import SchemaCanvas.Proofs.Schema.Keys

/-!
# Refreshing once more

A refresh leaves nothing to do for another one. The diagram that it writes has entries of tables of
the schema only, so pruning keeps it (`Diagram.prune_of_contains`); it stores the place of every
table that it shows, so none is left to the generator (`Diagram.place_select_materialize`); and
positions that are written into a diagram a second time change nothing
(`Diagram.materialize_materialize`). So a second refresh gives the same picture and the same
diagrams (`DiagramSet.refresh_refresh`).
-/

namespace SchemaCanvas

variable {σ : Type} {schema : Schema}

/-! ## Writing positions once more -/

/-- Moving an entry twice to one position is moving it once. -/
theorem Entry.moveTo_moveTo (positions : Positions) (e : Entry) :
    (e.moveTo positions).moveTo positions = e.moveTo positions := by
  cases e with
  | wildcard name => rfl
  | table name x y =>
    cases h : positions.get? name with
    | some p =>
      have hmove : (Entry.table name x y).moveTo positions = .placed name p :=
        Entry.moveTo_of_get? h rfl
      rw [hmove]
      exact Entry.moveTo_of_get? h rfl
    | none =>
      have hstay : (Entry.table name x y).moveTo positions = .table name x y := by
        simp only [Entry.moveTo, h]
      rw [hstay, hstay]

/-- Without pending items every entry takes its place and no entry is added. -/
theorem Entry.materialize_nil (positions : Positions) (es : List Entry) :
    Entry.materialize positions [] es = es.map (Entry.moveTo positions) := by
  induction es with
  | nil => rfl
  | cons e es ih =>
    cases e with
    | wildcard name =>
      rw [Entry.materialize_wildcard, List.filter_nil, List.filter_nil, ih]
      rfl
    | table name x y => rw [Entry.materialize_table, ih, List.map_cons]

/-- All tables of the positions have an entry once the positions are written. -/
theorem Diagram.mem_tableNames_materialize (d : Diagram) {positions : Positions} {name : String}
    (h : name ∈ positions.keys) : name ∈ (d.materialize positions).tableNames := by
  obtain ⟨p, hp⟩ := Registry.exists_get? h
  have hstored := Diagram.get?_stored_materialize d hp
  exact List.mem_filterMap.2 ⟨_, Diagram.placed_mem_of_stored hstored, rfl⟩

/-- Writing positions into a diagram a second time changes nothing. -/
theorem Diagram.materialize_materialize (d : Diagram) (positions : Positions) :
    (d.materialize positions).materialize positions = d.materialize positions := by
  have hpending : positions.items.filter
      (fun item => decide (item.1 ∉ (d.materialize positions).tableNames)) = [] := by
    refine List.filter_eq_nil_iff.2 fun item hi => ?_
    have hname := d.mem_tableNames_materialize (List.mem_map_of_mem (f := Prod.fst) hi)
    simpa using hname
  have hentries : ∀ e ∈ (d.materialize positions).entries, e.moveTo positions = e := by
    intro e he
    rcases Entry.mem_materialize.1 he with ⟨e', -, rfl⟩ | ⟨item, hi, rfl⟩
    · exact Entry.moveTo_moveTo positions e'
    · have hp := Registry.get?_eq_some.2 (List.mem_filter.1 hi).1
      exact Entry.moveTo_of_get? hp rfl
  have hmap := (List.map_congr_left hentries).trans (List.map_id' _)
  rw [Diagram.materialize, hpending, Entry.materialize_nil, hmap]

/-! ## Pruning -/

/-- A diagram whose tables all are in the schema is kept by pruning. -/
theorem Diagram.prune_of_contains {d : Diagram}
    (h : ∀ name ∈ d.tableNames, schema.contains name = true) : d.prune schema = d := by
  have hkept : d.entries.filter (fun e => e.tableName?.all schema.contains) = d.entries := by
    refine List.filter_eq_self.2 fun e he => ?_
    cases hname : e.tableName? with
    | none => rfl
    | some name => exact h name (List.mem_filterMap.2 ⟨e, he, hname⟩)
  rw [Diagram.prune, hkept]

/-- Every table with an entry in a pruned diagram is in the schema. -/
theorem Diagram.contains_of_mem_prune {d : Diagram} {name : String}
    (h : name ∈ (d.prune schema).tableNames) : schema.contains name = true := by
  obtain ⟨e, he, hname⟩ := List.mem_filterMap.1 h
  have hkeep := (List.mem_filter.1 he).2
  rw [hname] at hkeep
  exact hkeep

/-- Writing positions of tables of the schema brings in entries of such tables only. -/
theorem Diagram.contains_of_mem_materialize {d : Diagram} {positions : Positions}
    (hd : ∀ name ∈ d.tableNames, schema.contains name = true)
    (hp : ∀ name ∈ positions.keys, schema.contains name = true) {name : String}
    (h : name ∈ (d.materialize positions).tableNames) : schema.contains name = true := by
  obtain ⟨e, he, hname⟩ := List.mem_filterMap.1 h
  rcases Entry.mem_materialize.1 he with ⟨e', he', rfl⟩ | ⟨item, hi, rfl⟩
  · rw [Entry.tableName?_moveTo] at hname
    exact hd name (List.mem_filterMap.2 ⟨e', he', hname⟩)
  · obtain rfl : item.1 = name := Option.some.inj hname
    exact hp item.1 (List.mem_map_of_mem (List.mem_filter.1 hi).1)

/-! ## Placing -/

/-- A diagram into which the places of its tables were written has them placed without the
generator, in the order that they had. -/
theorem Diagram.place_select_materialize
    (hschema : ∀ name, schema.contains name = true → name ∈ schema.tablesIn (schemaOf name))
    {d : Diagram} {g : Generator σ} {positions : Positions} {s t : σ}
    (h : (d.select schema).place g s = .ok positions t) {τ : Type} (g' : Generator τ) (u : τ) :
    ((d.materialize positions).select schema).place g' u = .ok positions u := by
  have hmentions : ∀ name ∈ positions.keys, d.Mentions schema name := fun name hn =>
    Diagram.mem_keys_select.1 ((Selection.mem_keys_place h name).1 hn)
  have hkeys : ((d.materialize positions).select schema).keys = positions.keys := by
    rw [Diagram.keys_select_materialize hschema hmentions, Selection.keys_place h]
  have hplaces : ∀ name p, positions.get? name = some p →
      ((d.materialize positions).select schema).get? name = some (some p) := by
    intro name p hp
    have hc := (hmentions name (Registry.mem_keys_of_get? hp)).1
    exact Diagram.get?_select_of_stored hc (Diagram.get?_stored_materialize d hp)
  have hplaced : ∀ table, ((d.materialize positions).select schema).get? table ≠ some none := by
    intro table ht
    obtain ⟨p, hp⟩ := Registry.exists_get? (hkeys ▸ Registry.mem_keys_of_get? ht)
    rw [hplaces table p hp] at ht
    cases ht
  have hplace := Selection.place_of_placed hplaced g' u
  rw [hplace]
  congr 1
  refine Registry.ext_get? ((Selection.keys_place hplace).trans hkeys) fun name hn => ?_
  have hn : name ∈ positions.keys := by rwa [Selection.keys_place hplace, hkeys] at hn
  obtain ⟨p, hp⟩ := Registry.exists_get? hn
  rw [Selection.get?_complete, hplaces name p hp, hp]
  rfl

/-! ## Refreshing -/

/-- A second refresh for the same schema gives the same picture and the same diagrams, whatever
generator it is given, and leaves the generator's state as it is. -/
theorem DiagramSet.refresh_of_refresh
    (hschema : ∀ name, schema.contains name = true → name ∈ schema.tablesIn (schemaOf name))
    {diagrams updated : DiagramSet} {name : String} {g : Generator σ} {picture : Picture} {s t : σ}
    (h : diagrams.refresh name schema g s = .ok (picture, updated) t) {τ : Type}
    (g' : Generator τ) (u : τ) :
    updated.refresh name schema g' u = .ok (picture, updated) u := by
  obtain ⟨d, positions, -, hplace, hpicture, -, hcontains, hupdated⟩ := refresh_eq_ok h
  have hget : updated.get? name = some ((d.prune schema).materialize positions) := by
    rw [hupdated, Registry.get?_insert_self]
  have hprune : ((d.prune schema).materialize positions).prune schema
      = (d.prune schema).materialize positions :=
    Diagram.prune_of_contains fun _ =>
      Diagram.contains_of_mem_materialize (fun _ => Diagram.contains_of_mem_prune) hcontains
  have hagain := Diagram.place_select_materialize hschema hplace g' u
  unfold refresh
  rw [bind_of_ok (find_eq_ok.2 ⟨hget, rfl⟩)]
  simp only [hprune]
  rw [bind_of_ok hagain, Diagram.materialize_materialize, Registry.insert_of_get? hget, hpicture]
  rfl

/-- **Refreshing is idempotent.** Once a refresh for the schema of a script succeeds, refreshing its
diagrams with any other generator gives the same picture and the same diagrams, and the generator is
not called. -/
theorem DiagramSet.refresh_refresh {text name : String} {diagrams updated : DiagramSet}
    {g : Generator σ} {picture : Picture} {s t : σ}
    (h : diagrams.refresh name (Schema.ofText text).1 g s = .ok (picture, updated) t) {τ : Type}
    (g' : Generator τ) (u : τ) (calls : List Call) :
    updated.refresh name (Schema.ofText text).1 g' u = .ok (picture, updated) u ∧
      updated.refresh name (Schema.ofText text).1 g'.recorded (u, calls)
        = .ok (picture, updated) (u, calls) :=
  have hschema := fun _ => Schema.mem_tablesIn_schemaOf
  ⟨refresh_of_refresh hschema h g' u, refresh_of_refresh hschema h g'.recorded (u, calls)⟩

/-! A diagram with a wildcard, a table that is gone, and a table that is placed twice. -/

/-- A script with tables in two schemas. -/
def mixedScript : String :=
  "CREATE TABLE a.x (); CREATE TABLE b.y (); CREATE TABLE a.z ();"

/-- The diagrams before the refresh. -/
def mixedDiagrams : DiagramSet :=
  .ofDiagrams [⟨"main", [.wildcard "a", .table "b.y" none none,
    .placed "a.x" ⟨.whole 1, .whole 2⟩, .placed "c.gone" ⟨.whole 5, .whole 6⟩,
    .placed "a.x" ⟨.whole 3, .whole 4⟩]⟩]

/-- The diagrams after the refresh. -/
def mixedRefreshed : DiagramSet :=
  .ofDiagrams [⟨"main", [.wildcard "a", .placed "a.z" ⟨.whole 7, .whole 8⟩,
    .placed "b.y" ⟨.whole 7, .whole 8⟩, .placed "a.x" ⟨.whole 3, .whole 4⟩,
    .placed "a.x" ⟨.whole 3, .whole 4⟩]⟩]

/-- The picture of both. -/
def mixedPicture : Picture where
  nodes := [⟨"a.x", ⟨.whole 3, .whole 4⟩, ⟨"a", "x", [], []⟩⟩,
    ⟨"a.z", ⟨.whole 7, .whole 8⟩, ⟨"a", "z", [], []⟩⟩,
    ⟨"b.y", ⟨.whole 7, .whole 8⟩, ⟨"b", "y", [], []⟩⟩]
  edges := []

/-- A second refresh gives the picture and the diagrams of the first one, although the generator
fails. -/
theorem refresh_mixedRefreshed :
    let failing : Generator Unit := .ofFunction fun _ _ => .error .missingOption
    mixedDiagrams.refresh "main" (Schema.ofText mixedScript).1 (.constant ⟨.whole 7, .whole 8⟩) ()
        = .ok (mixedPicture, mixedRefreshed) () ∧
      mixedRefreshed.refresh "main" (Schema.ofText mixedScript).1 failing ()
        = .ok (mixedPicture, mixedRefreshed) () ∧
      mixedRefreshed.refresh "main" (Schema.ofText mixedScript).1 failing.recorded ((), [])
        = .ok (mixedPicture, mixedRefreshed) ((), []) := by
  intro failing
  have hschema : (Schema.ofText mixedScript).1 = ⟨.ofList [("a.x", ⟨"a", "x", [], []⟩),
      ("b.y", ⟨"b", "y", [], []⟩), ("a.z", ⟨"a", "z", [], []⟩)], []⟩ := by decide +kernel
  have h : mixedDiagrams.refresh "main" (Schema.ofText mixedScript).1
      (.constant ⟨.whole 7, .whole 8⟩) () = .ok (mixedPicture, mixedRefreshed) () := by
    rw [hschema]
    rfl
  exact ⟨h, DiagramSet.refresh_refresh h failing () []⟩

end SchemaCanvas
