import SchemaCanvas.Proofs.Picture.Order
import SchemaCanvas.Proofs.Picture.Shown
import SchemaCanvas.Proofs.Schema.Keys

/-!
# What resolving a diagram comes to

The entries of a diagram say which tables of a schema it shows (`Diagram.shown`) and where: a table
is at the last place that an entry of its own gives to it (`Diagram.lastPlace?`), and else where the
generator puts it. `Diagram.Pictured` says all this of a picture, and `DiagramSet.Resolution` lists
everything that resolving can come to, with the calls that the generator gets on the way: none when
every table has a place, and else one. For the schema of a script resolving always comes to one of
these (`DiagramSet.exists_resolution`). That the diagram's own passes over its entries make the same
of them is `Diagram.items_select`.
-/

namespace SchemaCanvas

variable {σ : Type} {schema : Schema} {d : Diagram}

/-! ## What a diagram is to show -/

/-- The tables of the schema that an entry names: all that lie in one schema, or a single one. -/
def Entry.named (schema : Schema) : Entry → List String
  | .wildcard name => (schema.tables.items.filter fun item => item.2.schema = name).map Prod.fst
  | .table name _ _ => [name].filter schema.contains

/-- The place that an entry gives to the table, when it is the table's own and has coordinates. -/
def Entry.placeOf? (table : String) : Entry → Option Position
  | .table name (some x) (some y) => if name = table then some ⟨x, y⟩ else none
  | _ => none

namespace Diagram

/-- The tables to show, in the order in which the entries first name them. -/
def shown (d : Diagram) (schema : Schema) : List String :=
  distinct (d.entries.flatMap (Entry.named schema))

/-- The last place that an entry gives to the table. -/
def lastPlace? (d : Diagram) (table : String) : Option Position :=
  (d.entries.filterMap (Entry.placeOf? table)).getLast?

/-- The tables to show that an entry gives a place to, at their last places. -/
def placed (d : Diagram) (schema : Schema) : Positions :=
  .ofList ((d.shown schema).filterMap fun table => (d.lastPlace? table).map (table, ·))

/-- The tables to show that no entry gives a place to. -/
def unplaced (d : Diagram) (schema : Schema) : List String :=
  (d.shown schema).filter fun table => (d.lastPlace? table).isNone

/-- The picture shows what the diagram is to show, with the generator's answer for the tables that
no entry gives a place to. -/
structure Pictured (d : Diagram) (schema : Schema) (answer : Positions) (picture : Picture) :
    Prop where
  /-- The tables stand in the order in which the entries first name them. -/
  names : picture.nodes.map Node.name = d.shown schema
  /-- No table is shown twice. -/
  once : (picture.nodes.map Node.name).Nodup
  /-- The tables shown are those of the schema with an entry of their own or in a schema of a
  wildcard. -/
  mem_names : ∀ table, table ∈ picture.nodes.map Node.name ↔
    ∃ t, schema.tables.get? table = some t ∧
      ((∃ x y, .table table x y ∈ d.entries) ∨ .wildcard t.schema ∈ d.entries)
  /-- A table is shown as the schema has it. -/
  table : ∀ node ∈ picture.nodes, schema.tables.get? node.name = some node.table
  /-- The last place of the entries goes before the answer of the generator. -/
  position : ∀ node ∈ picture.nodes,
    some node.position = (d.lastPlace? node.name).or (answer.get? node.name)
  /-- The foreign keys between two of the tables are shown, in the order of the schema. -/
  edges : picture.edges = schema.foreignKeys.filter fun key =>
    key.sourceTable ∈ d.shown schema ∧ key.targetTable ∈ d.shown schema

/-- A table is to be shown exactly if the schema has it and the diagram has an entry of it or a
wildcard for its schema. -/
theorem mem_shown {table : String} :
    table ∈ d.shown schema ↔ ∃ t, schema.tables.get? table = some t ∧
      ((∃ x y, .table table x y ∈ d.entries) ∨ .wildcard t.schema ∈ d.entries) := by
  rw [shown, mem_distinct, List.mem_flatMap]
  constructor
  · rintro ⟨⟨name⟩ | ⟨name, x, y⟩, he, hn⟩
    · obtain ⟨item, hitem, rfl⟩ := List.mem_map.1 hn
      obtain ⟨hi, hs⟩ := List.mem_filter.1 hitem
      obtain rfl := of_decide_eq_true hs
      exact ⟨item.2, Registry.get?_eq_some.2 hi, .inr he⟩
    · obtain ⟨hn, hc⟩ := List.mem_filter.1 hn
      obtain rfl := List.mem_singleton.1 hn
      obtain ⟨t, ht⟩ := Registry.exists_get? (Registry.contains_iff.1 hc)
      exact ⟨t, ht, .inl ⟨x, y, he⟩⟩
  · rintro ⟨t, ht, ⟨x, y, he⟩ | he⟩
    · have hc : schema.contains table = true :=
        Registry.contains_iff.2 (Registry.mem_keys_of_get? ht)
      exact ⟨_, he, List.mem_filter.2 ⟨List.mem_singleton.2 rfl, hc⟩⟩
    · have hi : (table, t) ∈ schema.tables.items := Registry.get?_eq_some.1 ht
      exact ⟨_, he, List.mem_map.2 ⟨_, List.mem_filter.2 ⟨hi, by simp⟩, rfl⟩⟩

end Diagram

/-! ## The passes over the entries -/

/-- When every table stands under its own name, the names that a wildcard mentions are the keys of
its tables. -/
theorem Entry.named_eq (h : Keyed schema.tables) (e : Entry) :
    e.named schema = e.tables schema := by
  cases e with
  | table name x y => rfl
  | wildcard name =>
    have hname : ∀ item ∈ schema.tables.items, item.2.qualifiedName = item.1 := fun item hi =>
      h item.1 item.2 (Registry.get?_eq_some.2 hi)
    have hmentions : schema.tablesIn name
        = (schema.tables.items.filter fun item => item.2.schema = name).map Prod.fst := by
      rw [Schema.tablesIn, Registry.values, List.filter_map, List.map_map]
      exact List.map_congr_left fun item hi => hname item (List.mem_filter.1 hi).1
    rw [Entry.tables, Entry.mentions, hmentions, Entry.named]
    refine (List.filter_eq_self.2 fun table ht => ?_).symm
    obtain ⟨item, hi, rfl⟩ := List.mem_map.1 ht
    exact Registry.contains_iff.2 (List.mem_map_of_mem (List.mem_filter.1 hi).1)

/-- The look-up of a stored place from the last entry on finds the last place of the table. -/
theorem lookup_placements (table : String) (es : List Entry) :
    Registry.lookup table (es.filterMap Entry.placement?)
      = (es.filterMap (Entry.placeOf? table)).head? := by
  induction es with
  | nil => rfl
  | cons e es ih =>
    rcases e with w | ⟨name, _ | x, _ | y⟩
    · exact ih
    · exact ih
    · exact ih
    · exact ih
    · by_cases hn : name = table <;>
        simp [Entry.placement?, Entry.placeOf?, Registry.lookup, hn, ih]

namespace Diagram

/-- The place that a diagram stores of a table is the last one that an entry gives to it. -/
theorem get?_stored_eq (d : Diagram) (table : String) :
    d.stored.get? table = d.lastPlace? table := by
  rw [get?_stored, lookup_placements, lastPlace?, List.filterMap_reverse, List.head?_reverse]

variable (h : Keyed schema.tables)
include h

/-- The selected tables are those to be shown, in their order. -/
theorem keys_select_eq (d : Diagram) : (d.select schema).keys = d.shown schema := by
  rw [keys_select, shown, funext (Entry.named_eq h)]

/-- A table to be shown is selected with its last place, if it has one. -/
theorem get?_select_of_shown {table : String} (ht : table ∈ d.shown schema) :
    (d.select schema).get? table = some (d.lastPlace? table) := by
  classical
  rw [get?_select, if_pos (mem_keys_select.1 (keys_select_eq h d ▸ ht)), get?_stored_eq]

/-- The selection of a diagram holds the tables that it is to show, each with the last place that
the entries give to it. -/
theorem items_select (d : Diagram) :
    (d.select schema).items = (d.shown schema).map fun table => (table, d.lastPlace? table) := by
  have hitem : ∀ item ∈ (d.select schema).items, item = (item.1, d.lastPlace? item.1) := by
    intro item hi
    have ht : item.1 ∈ d.shown schema := keys_select_eq h d ▸ List.mem_map_of_mem hi
    have hget := get?_select_of_shown h ht
    rw [Registry.get?_eq_some.2 hi, Option.some.injEq] at hget
    exact Prod.ext rfl hget
  rw [← keys_select_eq h, Registry.keys, List.map_map]
  exact (List.map_id _).symm.trans (List.map_congr_left hitem)

/-- The tables that are selected with a place are at their last places. -/
theorem placed_select (d : Diagram) : (d.select schema).placed = d.placed schema := by
  have hitems : (d.select schema).placed.items
      = (d.shown schema).filterMap fun table => (d.lastPlace? table).map (table, ·) := by
    show (d.select schema).items.filterMap _ = _
    rw [items_select h, List.filterMap_map]
    rfl
  rw [placed, ← hitems, Registry.ofList_items]

/-- The tables that are selected without a place are those that no entry gives one to. -/
theorem unplaced_select (d : Diagram) : (d.select schema).unplaced = d.unplaced schema := by
  rw [Selection.unplaced, items_select h, List.filter_map, List.map_map, unplaced]
  exact List.map_id _

end Diagram

/-! ## The generator's part -/

namespace Generator

variable {g : Generator σ} {existing : Positions} {names : List String} {s t : σ}

/-- When the generator fails, so does the placement. -/
theorem placeAll_of_error (hn : names ≠ []) {cause : LayoutError}
    (h : g existing names s = .error cause t) :
    g.placeAll existing names s = .error cause t := by
  rw [placeAll, if_neg hn, bind_of_error h]

/-- An answer that leaves tables out fails with their names. -/
theorem placeAll_of_missing (hn : names ≠ []) {answer : Positions}
    (h : g existing names s = .ok answer t)
    (hm : (names.filter fun name => !answer.contains name) ≠ []) :
    g.placeAll existing names s
      = .error (.unplaced (names.filter fun name => !answer.contains name)) t := by
  rw [placeAll, if_neg hn, bind_of_ok h]
  simp only [if_neg hm]
  rfl

/-- An answer with a place for every name is taken: the names asked for are at their places in it,
whatever else it holds. -/
theorem exists_placeAll (hn : names ≠ []) {answer : Positions}
    (h : g existing names s = .ok answer t)
    (hm : (names.filter fun name => !answer.contains name) = []) :
    ∃ more, g.placeAll existing names s = .ok more t ∧
      ∀ name ∈ names, more.get? name = answer.get? name := by
  have hok : g.placeAll existing names s = .ok (Registry.ofList
      (names.filterMap fun name => (answer.get? name).map (name, ·))) t := by
    rw [placeAll, if_neg hn, bind_of_ok h]
    simp only [if_pos hm]
    rfl
  refine ⟨_, hok, fun name hname => ?_⟩
  obtain ⟨p, hp⟩ := Registry.exists_get? ((mem_keys_placeAll hok name).2 hname)
  obtain ⟨-, given, hgiven, hplace⟩ := exists_of_get?_placeAll hok hp
  rw [h] at hgiven
  cases hgiven
  rw [hp, hplace]

end Generator

/-- A selection whose tables have all been placed is drawn with the last places of the entries, and
with the answer for the other tables. -/
theorem Diagram.pictured_draw (h : Keyed schema.tables) {g : Generator σ} {s t : σ}
    {more answer : Positions}
    (hmore : g.placeAll (d.placed schema) (d.unplaced schema) s = .ok more t)
    (hanswer : ∀ name ∈ d.unplaced schema, more.get? name = answer.get? name) :
    d.Pictured schema answer (Picture.draw schema ((d.select schema).complete more)) := by
  rw [← placed_select h, ← unplaced_select h] at hmore
  have hplace := Selection.place_eq_ok.2 ⟨more, hmore, rfl⟩
  have hkeys : ((d.select schema).complete more).keys = d.shown schema := by
    rw [Selection.keys_place hplace, keys_select_eq h]
  have hc : ∀ table ∈ ((d.select schema).complete more).keys, schema.contains table = true :=
    fun table ht => contains_of_mem_select ((Selection.mem_keys_place hplace table).1 ht)
  have hnames : (Picture.draw schema ((d.select schema).complete more)).nodes.map Node.name
      = d.shown schema := by
    rw [← hkeys, Registry.keys, ← Picture.map_nodes_draw hc, List.map_map]
    rfl
  refine ⟨hnames, hnames ▸ nodup_distinct _, fun table => hnames ▸ mem_shown, ?_, ?_, ?_⟩
  · intro node hnode
    obtain ⟨item, -, hitem⟩ := List.mem_filterMap.1 hnode
    obtain ⟨table, ht, rfl⟩ := Option.map_eq_some_iff.1 hitem
    exact ht
  · intro node hnode
    have hshown : node.name ∈ d.shown schema := hnames ▸ List.mem_map_of_mem hnode
    have hitem : (node.name, node.position) ∈ ((d.select schema).complete more).items := by
      rw [← Picture.map_nodes_draw hc]
      exact List.mem_map_of_mem hnode
    rw [← Registry.get?_eq_some.2 hitem, Selection.get?_complete, get?_select_of_shown h hshown,
      Option.bind_some]
    cases hlast : d.lastPlace? node.name with
    | some p => rfl
    | none =>
      have hun : node.name ∈ d.unplaced schema := List.mem_filter.2 ⟨hshown, by rw [hlast]; rfl⟩
      rw [Option.none_or, Option.none_or, hanswer _ hun]
  · simp only [Picture.draw, Registry.contains, hkeys, Bool.decide_and]

/-! ## All that resolving comes to -/

/-- What resolving comes to, and the calls that the generator gets. -/
inductive DiagramSet.Resolution (diagrams : DiagramSet) (name : String) (schema : Schema)
    (g : Generator σ) (s : σ) : EStateM.Result LayoutError σ Picture → List Call → Prop
  /-- There is no diagram of the name. -/
  | unknown (hd : diagrams.get? name = none) :
    Resolution diagrams name schema g s (.error (.unknownDiagram name) s) []
  /-- The entries give a place to every table to show; the generator is not called. -/
  | stored {d : Diagram} {picture : Picture} (hd : diagrams.get? name = some d)
    (hu : d.unplaced schema = []) (hp : d.Pictured schema ∅ picture) :
    Resolution diagrams name schema g s (.ok picture s) []
  /-- The generator fails. -/
  | failed {d : Diagram} {cause : LayoutError} {t : σ} (hd : diagrams.get? name = some d)
    (hu : d.unplaced schema ≠ [])
    (hg : g (d.placed schema) (d.unplaced schema) s = .error cause t) :
    Resolution diagrams name schema g s (.error cause t) [⟨d.placed schema, d.unplaced schema⟩]
  /-- The generator leaves some of the tables out. -/
  | incomplete {d : Diagram} {answer : Positions} {t : σ} {missing : List String}
    (hd : diagrams.get? name = some d) (hu : d.unplaced schema ≠ [])
    (hg : g (d.placed schema) (d.unplaced schema) s = .ok answer t)
    (hm : missing = (d.unplaced schema).filter fun table => !answer.contains table)
    (hne : missing ≠ []) :
    Resolution diagrams name schema g s (.error (.unplaced missing) t)
      [⟨d.placed schema, d.unplaced schema⟩]
  /-- The generator places all tables that it is asked for, and possibly others. -/
  | generated {d : Diagram} {answer : Positions} {t : σ} {picture : Picture}
    (hd : diagrams.get? name = some d) (hu : d.unplaced schema ≠ [])
    (hg : g (d.placed schema) (d.unplaced schema) s = .ok answer t)
    (hall : ∀ table ∈ d.unplaced schema, answer.contains table = true)
    (hp : d.Pictured schema answer picture) :
    Resolution diagrams name schema g s (.ok picture t) [⟨d.placed schema, d.unplaced schema⟩]

/-- The result with the calls of a generator beside the state. -/
def withCalls {α : Type} (calls : List Call) :
    EStateM.Result LayoutError σ α → EStateM.Result LayoutError (σ × List Call) α
  | .ok a t => .ok a (t, calls)
  | .error cause t => .error cause (t, calls)

/-- A step that leaves the calls alone can follow one that has noted them. -/
theorem bind_withCalls {α β : Type} {p : Placing σ α} {p' : Placing (σ × List Call) α}
    {calls made : List Call} {s : σ} (h : p' (s, calls) = withCalls made (p s)) (f : α → β) :
    (p' >>= fun a => pure (f a)) (s, calls) = withCalls made ((p >>= fun a => pure (f a)) s) := by
  cases hp : p s with
  | ok a t =>
    rw [hp] at h
    rw [bind_of_ok h, bind_of_ok hp]
    rfl
  | error cause t =>
    rw [hp] at h
    rw [bind_of_error h, bind_of_error hp]
    rfl

/-- Asking the recorded generator adds one call to the record and is otherwise asking the
generator. -/
theorem Generator.placeAll_recorded (g : Generator σ) (existing : Positions) {names : List String}
    (hn : names ≠ []) (s : σ) (calls : List Call) :
    g.recorded.placeAll existing names (s, calls)
      = withCalls (calls ++ [⟨existing, names⟩]) (g.placeAll existing names s) := by
  rw [placeAll, placeAll, if_neg hn, if_neg hn]
  cases h : g existing names s with
  | error cause t =>
    have hrecorded : g.recorded existing names (s, calls)
        = .error cause (t, calls ++ [⟨existing, names⟩]) := by rw [recorded, h]
    rw [bind_of_error h, bind_of_error hrecorded]
    rfl
  | ok answer t =>
    have hrecorded : g.recorded existing names (s, calls)
        = .ok answer (t, calls ++ [⟨existing, names⟩]) := by rw [recorded, h]
    rw [bind_of_ok h, bind_of_ok hrecorded]
    by_cases hm : (names.filter fun name => !answer.contains name) = []
    · simp only [if_pos hm]
      rfl
    · simp only [if_neg hm]
      rfl

namespace DiagramSet

variable {diagrams : DiagramSet} {name : String}

/-- There is nothing to resolve under a name that no diagram has. -/
theorem resolve_of_unknown (hd : diagrams.get? name = none) (schema : Schema) (g : Generator σ)
    (s : σ) : diagrams.resolve name schema g s = .error (.unknownDiagram name) s := by
  refine bind_of_error ?_
  rw [find, hd]
  rfl

/-- A diagram of the set is resolved by placing its tables and drawing them. -/
theorem resolve_of_get? (hk : Keyed schema.tables) (hd : diagrams.get? name = some d)
    (g : Generator σ) (s : σ) :
    diagrams.resolve name schema g s
      = (g.placeAll (d.placed schema) (d.unplaced schema) >>= fun more =>
          pure (Picture.draw schema ((d.select schema).complete more))) s := by
  unfold resolve
  rw [bind_of_ok (find_eq_ok.2 ⟨hd, rfl⟩), Selection.place, Diagram.placed_select hk,
    Diagram.unplaced_select hk, bind_assoc]
  rfl

/-- **Resolving shows exactly the right picture.** For the schema of a script, every set of
diagrams, every name and every generator, resolving comes to one of the listed results, and the
generator gets the calls that are listed with it. -/
theorem exists_resolution (text name : String) (diagrams : DiagramSet) (g : Generator σ) (s : σ) :
    ∃ made, diagrams.Resolution name (Schema.ofText text).1 g s
        (diagrams.resolve name (Schema.ofText text).1 g s) made ∧
      ∀ calls, diagrams.resolve name (Schema.ofText text).1 g.recorded (s, calls)
        = withCalls (calls ++ made) (diagrams.resolve name (Schema.ofText text).1 g s) := by
  have hk := Schema.keyed_ofText text
  generalize (Schema.ofText text).1 = schema at hk
  cases hd : diagrams.get? name with
  | none =>
    refine ⟨[], ?_, fun calls => ?_⟩
    · rw [resolve_of_unknown hd]
      exact .unknown hd
    · rw [resolve_of_unknown hd, resolve_of_unknown hd, List.append_nil]
      rfl
  | some d =>
    rw [resolve_of_get? hk hd]
    simp only [resolve_of_get? hk hd]
    by_cases hu : d.unplaced schema = []
    · have hnone : ∀ {τ : Type} (g : Generator τ) (s : τ),
          g.placeAll (d.placed schema) (d.unplaced schema) s = .ok ∅ s := by
        intro τ g s
        rw [hu]
        rfl
      refine ⟨[], ?_, fun calls => ?_⟩
      · rw [bind_of_ok (hnone g s)]
        exact .stored hd hu (d.pictured_draw hk (hnone g s) fun _ _ => rfl)
      · rw [List.append_nil]
        exact bind_withCalls (by rw [hnone, hnone]; rfl) _
    · refine ⟨[⟨d.placed schema, d.unplaced schema⟩], ?_, fun calls =>
        bind_withCalls (g.placeAll_recorded _ hu s calls) _⟩
      cases hg : g (d.placed schema) (d.unplaced schema) s with
      | error cause t =>
        rw [bind_of_error (Generator.placeAll_of_error hu hg)]
        exact .failed hd hu hg
      | ok answer t =>
        by_cases hm : ((d.unplaced schema).filter fun table => !answer.contains table) = []
        · obtain ⟨more, hmore, hanswer⟩ := Generator.exists_placeAll hu hg hm
          rw [bind_of_ok hmore]
          have hall : ∀ table ∈ d.unplaced schema, answer.contains table = true := by
            simpa using hm
          exact .generated hd hu hg hall (d.pictured_draw hk hmore hanswer)
        · rw [bind_of_error (Generator.placeAll_of_missing hu hg hm)]
          exact .incomplete hd hu hg rfl hm

end DiagramSet

end SchemaCanvas
