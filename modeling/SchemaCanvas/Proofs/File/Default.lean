import Mathlib.Data.List.Nodup
import SchemaCanvas.Proofs.File.Loaded
import SchemaCanvas.Proofs.Picture.Committed
import SchemaCanvas.Proofs.Schema.Closed

/-!
# A file without diagrams shows everything

A file has no diagrams when it has no complete block, or one without a line that opens a diagram
(`Block.headless_iff`). It gets the default diagram, which has a wildcard for every schema. Every
table lies in one of the schemas and in no other, so the diagram shows each table once, one schema
after another, and all foreign keys, whose ends are tables (`Loaded.shows_everything`).
-/

namespace SchemaCanvas

variable {σ : Type}

/-! ## Blocks without diagrams -/

/-- A line has no header in it exactly if it is not read as one. -/
theorem Line.header?_eq_none_iff {text : List Char} :
    header? text = none ↔ ∀ name, read text ≠ .header name := by
  unfold read
  cases header? text with
  | some name => simp
  | none =>
    refine iff_of_true rfl fun name => ?_
    cases parts? text with
    | none => simp
    | some parts => simp

namespace Block

/-- The text has no complete block, or one in which no line opens a diagram. -/
def Headless (cs : List Char) : Prop :=
  ∀ l, locate cs = some l → ∀ line ∈ Text.lines l.content, Line.header? (Text.strip line) = none

instance decidableHeadless (cs : List Char) : Decidable (Headless cs) :=
  match h : locate cs with
  | none => isTrue fun l hl => by
    rw [h] at hl
    cases hl
  | some l =>
    decidable_of_iff (∀ line ∈ Text.lines l.content, Line.header? (Text.strip line) = none) (by
      simp only [Headless, h, Option.some.injEq, forall_eq'])

namespace Progress

variable {p q : Progress}

/-- While a diagram is being read there is at least one diagram. -/
theorem items_diagrams_of_current {d : Diagram} (h : p.current = some d) :
    p.diagrams.items ≠ [] := by
  simp only [diagrams, h]
  exact Registry.items_insert_ne_nil p.finished d.name d

/-- Nothing has been opened after a line if nothing was before it and it opens nothing. -/
theorem items_step {text : List Char} {line : Int} (h : p.step text line = .ok q) :
    q.diagrams.items = [] ↔ p.diagrams.items = [] ∧ Line.header? text = none := by
  have hstep := h ▸ p.stepped text line
  cases hstep with
  | ignored hread =>
    rw [Line.header?_eq_none_iff.2 (by rw [hread]; exact nofun), and_iff_left rfl]
  | opened hread =>
    exact ⟨fun hq => absurd hq (items_diagrams_of_current rfl),
      fun hp => absurd hread (Line.header?_eq_none_iff.1 hp.2 _)⟩
  | homeless hread hcurrent =>
    rw [Line.header?_eq_none_iff.2 (by rw [hread]; exact nofun), and_iff_left rfl]
    simp only [diagrams, warn, hcurrent]
  | kept hread hcurrent =>
    exact iff_of_false (items_diagrams_of_current rfl)
      fun hp => items_diagrams_of_current hcurrent hp.1
  | malformed hread hcurrent =>
    exact iff_of_false (items_diagrams_of_current hcurrent)
      fun hp => items_diagrams_of_current hcurrent hp.1

/-- Reading lines leaves no diagram exactly if there was none and no line opens one. -/
theorem items_steps {texts : List (List Char)} {line : Int} (h : p.steps texts line = .ok q) :
    q.diagrams.items = [] ↔
      p.diagrams.items = [] ∧ ∀ text ∈ texts, Line.header? (Text.strip text) = none := by
  induction texts generalizing p line with
  | nil =>
    cases h
    simp
  | cons text texts ih =>
    rw [steps] at h
    split at h
    · next r hr => rw [ih h, items_step hr, List.forall_mem_cons, and_assoc]
    · cases h

end Progress

/-- A text whose blocks can be read has no diagrams just when no line of its block opens one. -/
theorem headless_iff {text : String} {block : Option DiagramSet} {ws : List Warning}
    (h : readText text = .ok (block, ws)) :
    Headless text.toList ↔ ∀ D, block = some D → D.items = [] := by
  unfold readText at h
  unfold Headless
  cases hl : locate text.toList with
  | none =>
    simp only [hl] at h
    cases h
    exact iff_of_true nofun nofun
  | some l =>
    simp only [hl, readContent] at h
    cases hs : Progress.start.steps (Text.lines l.content) l.line with
    | error cause =>
      rw [hs] at h
      cases h
    | ok q =>
      rw [hs] at h
      cases h
      have hstart : Progress.start.diagrams.items = [] := rfl
      simp only [Option.some.injEq, forall_eq', Progress.items_steps hs, hstart, true_and]

end Block

/-! ## The tables, one schema after another -/

namespace Schema

/-- The tables under their names, one schema after another. -/
def bySchema (s : Schema) : List (String × Table) :=
  s.schemaNames.flatMap fun name => s.tables.items.filter fun item => item.2.schema = name

/-- Going through the tables schema by schema meets each table of the schema and no other. -/
theorem mem_bySchema {s : Schema} {item : String × Table} :
    item ∈ s.bySchema ↔ item ∈ s.tables.items := by
  simp only [bySchema, List.mem_flatMap, List.mem_filter, decide_eq_true_eq]
  refine ⟨fun ⟨_, _, h, _⟩ => h, fun h => ⟨item.2.schema, ?_, h, rfl⟩⟩
  exact mem_distinct.2 (List.mem_map_of_mem (List.mem_map_of_mem h))

/-- No table comes twice, since each lies in one schema only. -/
theorem nodup_bySchema (s : Schema) : (s.bySchema.map Prod.fst).Nodup := by
  rw [bySchema, List.map_flatMap, List.nodup_flatMap]
  refine ⟨fun name _ => ?_, ?_⟩
  · exact s.tables.nodup_keys.sublist (List.filter_sublist.map _)
  · refine (nodup_distinct _).imp fun {a b} hne => ?_
    simp only [Function.onFun, List.disjoint_left, List.mem_map, List.mem_filter]
    rintro name ⟨item, ⟨hi, ha⟩, rfl⟩ ⟨other, ⟨ho, hb⟩, hname⟩
    have htable : s.tables.get? item.1 = some item.2 := Registry.get?_eq_some.2 hi
    have hother : s.tables.get? other.1 = some other.2 := Registry.get?_eq_some.2 ho
    rw [hname, htable, Option.some.injEq] at hother
    rw [← of_decide_eq_true ha, ← of_decide_eq_true hb, hother] at hne
    exact hne rfl

/-- Each table is met as often as it is there, that is once. -/
theorem bySchema_perm (s : Schema) : s.bySchema.Perm s.tables.items :=
  (List.perm_ext_iff_of_nodup (.of_map _ s.nodup_bySchema) (.of_map _ s.tables.nodup_keys)).2
    fun _ => mem_bySchema

/-- The default diagram shows all tables, schema by schema. -/
theorem shown_defaultDiagram (s : Schema) :
    s.defaultDiagram.shown s = s.bySchema.map Prod.fst := by
  have hnamed : s.defaultDiagram.entries.flatMap (Entry.named s) = s.bySchema.map Prod.fst := by
    rw [defaultDiagram, List.flatMap_map, bySchema, List.map_flatMap]
    rfl
  rw [Diagram.shown, hnamed, distinct_of_nodup s.nodup_bySchema]

end Schema

/-! ## The picture of the default diagram -/

/-- Both ends of a foreign key of a script are tables. -/
theorem Schema.ends_ofText {text : String} {key : ForeignKey}
    (h : key ∈ (ofText text).1.foreignKeys) :
    key.sourceTable ∈ (ofText text).1.tables.keys ∧
      key.targetTable ∈ (ofText text).1.tables.keys := by
  obtain ⟨source, target, hsource, -, htarget, -⟩ :=
    columns_of_mem_declareForeignKeys (keyed_ofText text) h
  exact ⟨Registry.mem_keys_of_get? hsource, Registry.mem_keys_of_get? htarget⟩

/-- The picture shows all tables of a schema and all its foreign keys. -/
structure Picture.ShowsAll (p : Picture) (s : Schema) : Prop where
  /-- Every table of the schema is shown once, under its name. -/
  once : (p.nodes.map fun node => (node.name, node.table)).Perm s.tables.items
  /-- The tables stand one schema after another. -/
  order : p.nodes.map (fun node => (node.name, node.table)) = s.bySchema
  /-- Every foreign key is an edge, in the order of the schema. -/
  edges : p.edges = s.foreignKeys

/-- A picture of the default diagram shows the whole schema, when the foreign keys have their tables
in it. -/
theorem Picture.showsAll_of_pictured {s : Schema}
    (hends : ∀ key ∈ s.foreignKeys,
      key.sourceTable ∈ s.tables.keys ∧ key.targetTable ∈ s.tables.keys)
    {answer : Positions} {p : Picture} (h : s.defaultDiagram.Pictured s answer p) :
    p.ShowsAll s := by
  have horder : p.nodes.map (fun node => (node.name, node.table)) = s.bySchema := by
    refine Registry.eq_of_map_fst (r := s.tables) ?_ (fun _ => Schema.mem_bySchema.1) ?_
    · intro item hitem
      obtain ⟨node, hnode, rfl⟩ := List.mem_map.1 hitem
      exact Registry.get?_eq_some.1 (h.table node hnode)
    · rw [List.map_map, ← s.shown_defaultDiagram]
      exact h.names
  have hshown : ∀ name, name ∈ s.tables.keys → name ∈ s.defaultDiagram.shown s := by
    intro name hname
    rw [s.shown_defaultDiagram]
    exact (s.bySchema_perm.map _).mem_iff.2 hname
  refine ⟨horder ▸ s.bySchema_perm, horder, ?_⟩
  rw [h.edges, List.filter_eq_self]
  intro key hkey
  obtain ⟨hsource, htarget⟩ := hends key hkey
  exact decide_eq_true ⟨hshown _ hsource, hshown _ htarget⟩

namespace Loaded

/-- A file without a line that opens a diagram in its block has the default diagrams. -/
theorem diagrams_eq_of_headless {text : String} {l : Loaded} (h : ofText text = .ok l)
    (hblock : Block.Headless text.toList) : l.diagrams = l.schema.defaultDiagrams := by
  obtain ⟨-, -, block, ws, hread, ⟨hdiagrams, hne⟩ | ⟨-, hdefault⟩⟩ := ofText_eq_ok h
  · exact absurd ((Block.headless_iff hread).1 hblock l.diagrams hdiagrams) hne
  · exact hdefault

/-- **A file without stored diagrams shows everything.** A file that can be read and that holds no
diagrams gets one, and with a generator that places every table it is resolved to a picture of all
tables of the schema, each once, and of all its foreign keys, each as one edge and in their
order. -/
theorem shows_everything {text : String} {l : Loaded} (h : ofText text = .ok l)
    (hblock : Block.Headless text.toList) {g : Generator σ} (hg : g.Total) (s : σ) :
    l.schema = (Schema.ofText text).1 ∧ l.diagrams.keys = [defaultDiagramName] ∧
      ∃ picture t, l.diagrams.resolve defaultDiagramName l.schema g s = .ok picture t ∧
        picture.ShowsAll l.schema := by
  have hschema := (ofText_eq_ok h).1
  have hkeyed : Keyed l.schema.tables := hschema ▸ Schema.keyed_ofText text
  have hends : ∀ key ∈ l.schema.foreignKeys,
      key.sourceTable ∈ l.schema.tables.keys ∧ key.targetTable ∈ l.schema.tables.keys := by
    rw [hschema]
    exact fun _ => Schema.ends_ofText
  have hdiagrams := diagrams_eq_of_headless h hblock
  have hkeys : l.diagrams.keys = [defaultDiagramName] := by
    rw [hdiagrams]
    rfl
  have hget : l.diagrams.get? defaultDiagramName = some l.schema.defaultDiagram := by
    rw [hdiagrams]
    rfl
  obtain ⟨picture, t, hresolve⟩ :=
    DiagramSet.exists_resolve (Registry.mem_keys_of_get? hget) l.schema hg s
  obtain ⟨answer, hp⟩ := DiagramSet.exists_pictured hkeyed hget hresolve
  exact ⟨hschema, hkeys, picture, t, hresolve, Picture.showsAll_of_pictured hends hp⟩

/-! A file with a block that opens no diagram, a table that is declared twice, a schema with an
empty name and a table with a point in its name. -/

/-- The text of the file. -/
def sketchedScript : String :=
  "/* @erd-pets\n- to be drawn\n*/ CREATE TABLE \"\".\"t.u\" (c int); CREATE TABLE b.y (); " ++
    "CREATE TABLE \"\".v (c int); CREATE TABLE b.y (d int); " ++
    "ALTER TABLE b.y ADD FOREIGN KEY (d) REFERENCES \"\".\"t.u\" (c);"

/-- What the file holds. -/
def sketchedFile : Loaded :=
  let schema : Schema :=
    ⟨.ofList [(".t.u", ⟨"", "t.u", [⟨"c", "int", true, false⟩], []⟩),
        ("b.y", ⟨"b", "y", [⟨"d", "int", true, false⟩], []⟩),
        (".v", ⟨"", "v", [⟨"c", "int", true, false⟩], []⟩)],
      [⟨"b.y", "d", ".t.u", "c"⟩]⟩
  ⟨schema, schema.defaultDiagrams, [redeclared "b.y" 3], true⟩

/-- The script has a block without a header; its tables are shown schema by schema, with the foreign
key between two of them. -/
theorem shows_everything_sketchedScript :
    let g := Generator.constant ⟨.whole 1, .whole 2⟩
    ofText sketchedScript = .ok sketchedFile ∧ Block.Headless sketchedScript.toList ∧ g.Total ∧
      ∃ picture t, sketchedFile.diagrams.resolve defaultDiagramName sketchedFile.schema g ()
          = .ok picture t ∧
        picture.nodes.map Node.name = [".t.u", ".v", "b.y"] ∧
        picture.edges = [⟨"b.y", "d", ".t.u", "c"⟩] := by
  intro g
  have hload : ofText sketchedScript = .ok sketchedFile := by decide +kernel
  have hblock : Block.Headless sketchedScript.toList := by decide +kernel
  have hg : g.Total := Generator.total_constant _
  obtain ⟨-, -, picture, t, hresolve, hall⟩ := shows_everything hload hblock hg ()
  have hnames : picture.nodes.map Node.name = sketchedFile.schema.bySchema.map Prod.fst := by
    rw [← hall.order, List.map_map]
    rfl
  exact ⟨hload, hblock, hg, picture, t, hresolve, hnames.trans (by decide +kernel), hall.edges⟩

end Loaded

end SchemaCanvas
