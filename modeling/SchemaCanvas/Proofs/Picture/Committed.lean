import SchemaCanvas.Proofs.Picture.Resolved

/-!
# What is committed is what is shown

Places of exactly the tables that a diagram selects can be committed in any order: resolving the
diagram afterwards shows the same tables in the same order and with the same foreign keys, each at
the place that was committed, and asks no generator (`DiagramSet.resolve_commit`). The entries that
a commit adds stand behind the entries that first named their tables, so they come too late to
change the order, and all entries of a table are given the same place, so it does not matter which
of them is the last.
-/

namespace SchemaCanvas

variable {σ : Type} {schema : Schema} {d : Diagram}

namespace DiagramSet

variable {diagrams : DiagramSet} {name : String}

/-- Committing positions writes them into the diagram of the name, and needs no generator. -/
theorem commit_of_get? (hd : diagrams.get? name = some d) (positions : Positions) (s : σ) :
    diagrams.commit name positions s = .ok (diagrams.insert name (d.materialize positions)) s := by
  unfold commit
  rw [bind_of_ok (find_eq_ok.2 ⟨hd, rfl⟩)]
  rfl

/-- Putting a diagram in the place of another keeps the names and their order. -/
theorem keys_insert_of_get? (hd : diagrams.get? name = some d) (d' : Diagram) :
    (diagrams.insert name d').keys = diagrams.keys := by
  rw [Registry.keys_insert, if_pos (Registry.mem_keys_of_get? hd)]

/-- Whatever a diagram is resolved to is what it is to show, for some answer of the generator. -/
theorem exists_pictured (hk : Keyed schema.tables) (hd : diagrams.get? name = some d)
    {g : Generator σ} {picture : Picture} {s t : σ}
    (h : diagrams.resolve name schema g s = .ok picture t) :
    ∃ answer, d.Pictured schema answer picture := by
  rw [resolve_of_get? hk hd] at h
  obtain ⟨more, u, hmore, hdraw⟩ := bind_eq_ok.1 h
  cases hdraw
  exact ⟨more, d.pictured_draw hk hmore fun _ _ => rfl⟩

end DiagramSet

namespace Diagram

/-- The picture shows the tables that the diagram selects, in their order and as the schema has
them, at the given places, with the foreign keys between two of them. -/
structure PicturedAt (d : Diagram) (schema : Schema) (positions : Positions) (picture : Picture) :
    Prop where
  names : picture.nodes.map Node.name = (d.select schema).keys
  position : ∀ node ∈ picture.nodes, positions.get? node.name = some node.position
  table : ∀ node ∈ picture.nodes, schema.tables.get? node.name = some node.table
  edges : picture.edges = schema.foreignKeys.filter fun key =>
    key.sourceTable ∈ (d.select schema).keys ∧ key.targetTable ∈ (d.select schema).keys

/-- Positions of the selected tables that are written into a diagram are where it is drawn from then
on, whatever the generator: every table has been given a place. -/
theorem resolve_materialize {text : String} {positions : Positions}
    (hkeys : ∀ table, table ∈ positions.keys ↔ table ∈ (d.select (Schema.ofText text).1).keys)
    {diagrams : DiagramSet} {name : String}
    (hd : diagrams.get? name = some (d.materialize positions)) :
    ∃ picture, d.PicturedAt (Schema.ofText text).1 positions picture ∧
      ∀ {τ : Type} (g : Generator τ) (u : τ),
        diagrams.resolve name (Schema.ofText text).1 g u = .ok picture u := by
  have hk := Schema.keyed_ofText text
  have hschema : ∀ table, (Schema.ofText text).1.contains table = true →
      table ∈ (Schema.ofText text).1.tablesIn (schemaOf table) :=
    fun _ => Schema.mem_tablesIn_schemaOf
  generalize (Schema.ofText text).1 = schema at hkeys hk hschema
  have hm : ∀ table ∈ positions.keys, d.Mentions schema table := fun table ht =>
    mem_keys_select.1 ((hkeys table).1 ht)
  have hshown : (d.materialize positions).shown schema = (d.select schema).keys := by
    rw [← keys_select_eq hk, keys_select_materialize hschema hm]
  have hstored : ∀ table, (d.materialize positions).Mentions schema table →
      table ∈ (d.materialize positions).stored.keys := by
    intro table ht
    obtain ⟨p, hp⟩ := Registry.exists_get?
      ((hkeys table).2 (mem_keys_select.2 ((mentions_materialize hm).1 ht)))
    exact Registry.mem_keys_of_get? (get?_stored_materialize d hp)
  have hresolve : ∀ {τ : Type} (g : Generator τ) (u : τ), diagrams.resolve name schema g u
      = .ok (Picture.draw schema (((d.materialize positions).select schema).complete ∅)) u :=
    fun g u => DiagramSet.resolve_of_stored hd hstored g u
  obtain ⟨answer, hp⟩ :=
    DiagramSet.exists_pictured hk hd (hresolve (.constant ⟨.whole 0, .whole 0⟩) ())
  refine ⟨_, ⟨?_, ?_, hp.table, ?_⟩, hresolve⟩
  · rw [hp.names, hshown]
  · intro node hnode
    have ht : node.name ∈ (d.select schema).keys :=
      hshown ▸ hp.names ▸ List.mem_map_of_mem hnode
    obtain ⟨p, hplace⟩ := Registry.exists_get? ((hkeys node.name).2 ht)
    have hposition := hp.position node hnode
    rw [← get?_stored_eq, get?_stored_materialize d hplace, Option.some_or] at hposition
    rw [hplace, hposition]
  · rw [hp.edges, hshown]

end Diagram

/-- **What is committed is what is shown.** Positions of exactly the tables that a diagram selects,
in any order, can be committed. Resolving the diagram then shows these tables in the order and with
the foreign keys that any resolving showed before, each at its position, and no generator is called.
The other diagrams are unchanged. -/
theorem DiagramSet.resolve_commit {text name : String} {diagrams : DiagramSet} {d : Diagram}
    (hd : diagrams.get? name = some d) {positions : Positions}
    (hkeys : ∀ table, table ∈ positions.keys ↔ table ∈ (d.select (Schema.ofText text).1).keys) :
    ∃ committed picture,
      (∀ {τ : Type} (u : τ), diagrams.commit name positions u = .ok committed u) ∧
      d.PicturedAt (Schema.ofText text).1 positions picture ∧
      (∀ {τ : Type} (g : Generator τ) (u : τ) (calls : List Call),
        committed.resolve name (Schema.ofText text).1 g u = .ok picture u ∧
        committed.resolve name (Schema.ofText text).1 g.recorded (u, calls)
          = .ok picture (u, calls)) ∧
      (∀ {τ : Type} (g : Generator τ) (u u' : τ) (before : Picture),
        diagrams.resolve name (Schema.ofText text).1 g u = .ok before u' →
        picture.nodes.map Node.name = before.nodes.map Node.name ∧
        picture.edges = before.edges) ∧
      committed.keys = diagrams.keys ∧
      ∀ other, other ≠ name → committed.get? other = diagrams.get? other := by
  have hk := Schema.keyed_ofText text
  have hget := Registry.get?_insert_self diagrams name (d.materialize positions)
  obtain ⟨picture, hp, hresolve⟩ := Diagram.resolve_materialize hkeys hget
  refine ⟨_, picture, fun u => commit_of_get? hd positions u, hp,
    fun g u calls => ⟨hresolve g u, hresolve g.recorded (u, calls)⟩, ?_,
    keys_insert_of_get? hd _, fun other hother => Registry.get?_insert_of_ne hother ..⟩
  intro τ g u u' before hbefore
  obtain ⟨answer, hb⟩ := exists_pictured hk hd hbefore
  rw [hp.names, hp.edges, hb.names, hb.edges, Diagram.keys_select_eq hk]
  exact ⟨rfl, rfl⟩

/-! A diagram that names one table twice, before and after a wildcard of its schema, and positions
in another order than that of the diagram. -/

/-- A script with tables in two schemas and a foreign key between them. -/
def linkedScript : String :=
  "CREATE TABLE a.x (\"id\" int); CREATE TABLE b.y (\"x\" int); CREATE TABLE a.z (); " ++
    "ALTER TABLE b.y ADD FOREIGN KEY (\"x\") REFERENCES a.x (\"id\");"

/-- The diagram before the positions are committed. -/
def linkedDiagram : Diagram :=
  ⟨"main", [.table "a.x" none none, .wildcard "b", .wildcard "a",
    .placed "a.x" ⟨.whole 1, .whole 2⟩]⟩

/-- The positions that are committed. -/
def linkedPositions : Positions :=
  .ofList [("b.y", ⟨.whole 3, .whole 4⟩), ("a.z", ⟨.whole 5, .whole 6⟩),
    ("a.x", ⟨.whole 7, .whole 8⟩)]

/-- The committed positions are those that the diagram is drawn with, although the generator
fails. -/
theorem resolve_commit_linked :
    (DiagramSet.ofDiagrams [linkedDiagram]).get? "main" = some linkedDiagram ∧
      (∀ table, table ∈ linkedPositions.keys ↔
        table ∈ (linkedDiagram.select (Schema.ofText linkedScript).1).keys) ∧
      ∃ committed picture,
        (DiagramSet.ofDiagrams [linkedDiagram]).commit "main" linkedPositions ()
            = .ok committed () ∧
          linkedDiagram.PicturedAt (Schema.ofText linkedScript).1 linkedPositions picture ∧
          committed.resolve "main" (Schema.ofText linkedScript).1
            (.ofFunction fun _ _ => .error .missingOption) () = .ok picture () := by
  have hd : (DiagramSet.ofDiagrams [linkedDiagram]).get? "main" = some linkedDiagram := rfl
  have hselect : (linkedDiagram.select (Schema.ofText linkedScript).1).keys
      = ["a.x", "b.y", "a.z"] := by decide +kernel
  have hpositions : linkedPositions.keys = ["b.y", "a.z", "a.x"] := by decide +kernel
  have hkeys : ∀ table, table ∈ linkedPositions.keys ↔
      table ∈ (linkedDiagram.select (Schema.ofText linkedScript).1).keys := by
    intro table
    rw [hselect, hpositions]
    simp only [List.mem_cons, List.not_mem_nil, or_false]
    constructor
    · rintro (h | h | h) <;> simp [h]
    · rintro (h | h | h) <;> simp [h]
  obtain ⟨committed, picture, hcommit, hp, hresolve, -⟩ := DiagramSet.resolve_commit hd hkeys
  exact ⟨hd, hkeys, committed, picture, hcommit (), hp, (hresolve _ () []).1⟩

end SchemaCanvas
