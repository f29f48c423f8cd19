import SchemaCanvas.File.Loaded
import SchemaCanvas.Proofs.Layout.Names
import SchemaCanvas.Proofs.Picture.Stored
import SchemaCanvas.Proofs.Schema.Keys

/-!
# What a file holds

A file that can be read has a schema with tables, and the diagrams of its block or else the one that
shows every schema (`Loaded.ofText_eq_ok`). However the file came about, the tables that have an
entry of their own in its diagrams have names that fit into a line of a block
(`Loaded.tablesFit_ofText`).
-/

namespace SchemaCanvas

/-! ## The default diagram -/

namespace Schema

variable {schema : Schema}

/-- By default there is one diagram. -/
theorem items_defaultDiagrams (schema : Schema) :
    schema.defaultDiagrams.items = [(defaultDiagramName, schema.defaultDiagram)] :=
  rfl

/-- The default diagram has a wildcard for each schema and nothing else. -/
theorem mem_entries_defaultDiagram {e : Entry} :
    e ∈ schema.defaultDiagram.entries ↔ ∃ name ∈ schema.schemaNames, e = .wildcard name := by
  rw [defaultDiagram, List.mem_map]
  exact ⟨fun ⟨name, hn, he⟩ => ⟨name, hn, he.symm⟩, fun ⟨name, hn, he⟩ => ⟨name, hn, he.symm⟩⟩

/-- The default diagram has no entry of a single table. -/
theorem tableNames_defaultDiagram (schema : Schema) : schema.defaultDiagram.tableNames = [] := by
  rw [Diagram.tableNames, List.filterMap_eq_nil_iff]
  intro e he
  obtain ⟨name, -, rfl⟩ := mem_entries_defaultDiagram.1 he
  rfl

end Schema

/-! ## Reading a file -/

/-- A text is taken for a schema exactly if it declares a table. -/
theorem Schema.ofText?_eq_ok {text : String} {schema : Schema} {ws : List Warning} :
    Schema.ofText? text = .ok (schema, ws) ↔
      Schema.ofText text = (schema, ws) ∧ schema.tables.items ≠ [] := by
  rw [Schema.ofText?]
  cases Schema.ofText text with
  | mk schema' ws' =>
    dsimp only
    by_cases ht : schema'.tables.items = []
    · rw [if_pos ht]
      refine ⟨nofun, fun ⟨he, hne⟩ => absurd ?_ hne⟩
      rw [← (Prod.mk.inj he).1, ht]
    · rw [if_neg ht]
      constructor
      · intro he
        have hpair := Except.ok.inj he
        exact ⟨hpair, (Prod.mk.inj hpair).1 ▸ ht⟩
      · rintro ⟨he, -⟩
        rw [he]

namespace Loaded

deriving instance DecidableEq for Loaded

/-- A file that can be read has tables, and its diagrams are those of its block, or the default one
when it has no block or an empty one. -/
theorem ofText_eq_ok {text : String} {l : Loaded} (h : ofText text = .ok l) :
    l.schema = (Schema.ofText text).1 ∧ l.schema.tables.items ≠ [] ∧
      ∃ block ws, Block.readText text = .ok (block, ws) ∧
        (block = some l.diagrams ∧ l.diagrams.items ≠ [] ∨
          (∀ diagrams, block = some diagrams → diagrams.items = []) ∧
            l.diagrams = l.schema.defaultDiagrams) := by
  obtain ⟨⟨schema, ws⟩, hschema, h⟩ := except_bind_eq_ok.1 h
  obtain ⟨⟨block, more⟩, hread, h⟩ := except_bind_eq_ok.1 h
  obtain ⟨htext, htables⟩ := Schema.ofText?_eq_ok.1 hschema
  rw [← Except.ok.inj h]
  refine ⟨by rw [htext], htables, block, more, hread, ?_⟩
  cases block with
  | none => exact .inr ⟨nofun, rfl⟩
  | some diagrams =>
    by_cases hd : diagrams.items = []
    · refine .inr ⟨fun other ho => Option.some.inj ho ▸ hd, ?_⟩
      exact if_pos hd
    · have hdiagrams : (if diagrams.items = [] then schema.defaultDiagrams else diagrams)
          = diagrams := if_neg hd
      refine .inl ⟨congrArg some hdiagrams.symm, ?_⟩
      rw [← hdiagrams] at hd
      exact hd

/-- The schema of a file that can be read is that of its text. -/
theorem schema_ofText {text : String} {l : Loaded} (h : ofText text = .ok l) :
    Schema.ofText? text = .ok (l.schema, (Schema.ofText text).2) := by
  obtain ⟨hschema, htables, -⟩ := ofText_eq_ok h
  exact Schema.ofText?_eq_ok.2 ⟨by rw [hschema], htables⟩

/-- A file that can be read has at least one diagram. -/
theorem keys_ne_nil {text : String} {l : Loaded} (h : ofText text = .ok l) :
    l.diagrams.keys ≠ [] := by
  obtain ⟨-, -, block, ws, -, ⟨-, hd⟩ | ⟨-, hd⟩⟩ := ofText_eq_ok h
  · exact fun hk => hd (List.map_eq_nil_iff.1 hk)
  · rw [hd]
    exact nofun

/-- A file without a block has the default diagrams. -/
theorem diagrams_eq_of_locate {text : String} {l : Loaded} (h : ofText text = .ok l)
    (hlocate : Block.locate text.toList = none) : l.diagrams = l.schema.defaultDiagrams := by
  obtain ⟨-, -, block, ws, hread, ⟨hblock, -⟩ | ⟨-, hdefault⟩⟩ := ofText_eq_ok h
  · simp only [Block.readText, hlocate, hblock, Except.ok.injEq, Prod.mk.injEq] at hread
    cases hread.1
  · exact hdefault

/-- A text with tables and a block with diagrams can be read. -/
theorem exists_ofText {text : String} (ht : (Schema.ofText text).1.tables.items ≠ [])
    {diagrams : DiagramSet} {ws : List Warning}
    (h : Block.readText text = .ok (some diagrams, ws)) (hd : diagrams.items ≠ []) :
    ∃ l, ofText text = .ok l ∧ l.schema = (Schema.ofText text).1 ∧ l.diagrams = diagrams := by
  have hschema := Schema.ofText?_eq_ok.2 ⟨rfl, ht⟩
  refine ⟨_, except_bind_eq_ok.2 ⟨_, hschema, except_bind_eq_ok.2 ⟨_, h, rfl⟩⟩, rfl, ?_⟩
  exact if_neg hd

/-- Every file that can be read names tables in its diagrams only if their names fit into a line of
a block. -/
theorem tablesFit_ofText {text : String} {l : Loaded} (h : ofText text = .ok l) :
    l.diagrams.TablesFit := by
  obtain ⟨-, -, block, ws, hread, ⟨rfl, -⟩ | ⟨-, hdefault⟩⟩ := ofText_eq_ok h
  · exact Block.tablesFit_readText hread
  · intro name d hd
    rw [hdefault, Registry.get?_eq_some, Schema.items_defaultDiagrams] at hd
    rw [(Prod.mk.inj (List.mem_singleton.1 hd)).2, Diagram.TablesFit,
      Schema.tableNames_defaultDiagram]
    exact nofun

end Loaded

end SchemaCanvas
