import SchemaCanvas.File.Refreshed
import SchemaCanvas.Proofs.File.Loaded
import SchemaCanvas.Proofs.Layout.Saving
import SchemaCanvas.Proofs.Picture.Reread

/-!
# Saved files that are opened again

A script without a layout is shown on the default diagram. When the places of its tables are saved,
the text can be opened again with the same picture exactly when every name of a table on the diagram
fits into a line of a block (`Loaded.reopens_iff`).
-/

namespace SchemaCanvas

variable {σ : Type} {schema : Schema} {positions : Positions}

/-! ## The default diagram with places -/

namespace Schema

/-- The default diagram with positions written into it. -/
def diagramAt (schema : Schema) (positions : Positions) : Diagram :=
  schema.defaultDiagram.materialize positions

/-- Its entries are the wildcards of the default diagram and the tables at their places. -/
theorem mem_entries_diagramAt {e : Entry} :
    e ∈ (schema.diagramAt positions).entries ↔
      (∃ name ∈ schema.schemaNames, e = .wildcard name) ∨
        ∃ item ∈ positions.items, e = .placed item.1 item.2 := by
  have hpending : positions.items.filter (fun item =>
      decide (item.1 ∉ schema.defaultDiagram.tableNames)) = positions.items := by
    rw [tableNames_defaultDiagram]
    simp
  rw [diagramAt, Diagram.materialize, Entry.mem_materialize, hpending]
  refine or_congr_left ⟨?_, ?_⟩
  · rintro ⟨e', he', rfl⟩
    obtain ⟨name, hn, rfl⟩ := mem_entries_defaultDiagram.1 he'
    exact ⟨name, hn, rfl⟩
  · rintro ⟨name, hn, rfl⟩
    exact ⟨_, mem_entries_defaultDiagram.2 ⟨name, hn, rfl⟩, rfl⟩

/-- It stores a place of every table that has an entry. -/
theorem mem_keys_stored_diagramAt {name : String} (h : name ∈ positions.keys) :
    name ∈ (schema.diagramAt positions).stored.keys := by
  obtain ⟨p, hp⟩ := Registry.exists_get? h
  exact Registry.mem_keys_of_get? (Diagram.get?_stored_materialize _ hp)

/-- Preparing the default diagram writes the positions into it and calls no generator. -/
theorem prepare_defaultDiagrams (schema : Schema) (positions : Positions) (g : Generator σ)
    (s : σ) :
    schema.defaultDiagrams.prepare defaultDiagramName positions g s
      = .ok (DiagramSet.ofDiagrams [schema.diagramAt positions]) s := by
  have hcommit : schema.defaultDiagrams.commit defaultDiagramName positions s
      = .ok (DiagramSet.ofDiagrams [schema.diagramAt positions]) s := rfl
  have hstored : ∀ d ∈ (DiagramSet.ofDiagrams [schema.diagramAt positions]).values,
      ∀ name ∈ d.tableNames, name ∈ d.stored.keys := by
    intro d hd name hn
    obtain rfl : d = schema.diagramAt positions := List.mem_singleton.1 hd
    obtain ⟨e, he, hname⟩ := List.mem_filterMap.1 hn
    rcases mem_entries_diagramAt.1 he with ⟨schemaName, -, rfl⟩ | ⟨item, hi, rfl⟩
    · cases hname
    · rw [← Option.some.inj hname]
      exact mem_keys_stored_diagramAt (List.mem_map_of_mem hi)
  rw [DiagramSet.prepare, bind_of_ok hcommit, DiagramSet.fill_of_stored hstored]

/-- A wildcard of the default diagram names the schema of a table on the diagram, so it fits into a
line when all tables on the diagram do. -/
theorem fits_label_diagramAt (hk : Keyed schema.tables)
    (hkeys : ∀ name, name ∈ positions.keys ↔ schema.defaultDiagram.Mentions schema name)
    (hfits : ∀ name ∈ positions.keys, Name.Fits name.toList) {e : Entry}
    (he : e ∈ (schema.diagramAt positions).entries) : Name.Fits e.label.toList := by
  rcases mem_entries_diagramAt.1 he with ⟨name, hn, rfl⟩ | ⟨item, hi, rfl⟩
  · obtain ⟨table, rfl, hc, hm⟩ := exists_contains_of_mem_schemaNames hk hn
    have hwildcard := mem_entries_defaultDiagram.2 ⟨table.schema, hn, rfl⟩
    have htable := hfits _ ((hkeys table.qualifiedName).2 ⟨hc, _, hwildcard, hm⟩)
    have hname : table.qualifiedName.toList = table.schema.toList ++ '.' :: table.name.toList := by
      simp [Table.qualifiedName, qualify]
    rw [hname, Name.fits_append] at htable
    exact htable.1
  · exact hfits item.1 (List.mem_map_of_mem hi)

/-- When all tables on the diagram have names that fit into a line, it can be read from a block. -/
theorem legible_diagramAt (hk : Keyed schema.tables)
    (hkeys : ∀ name, name ∈ positions.keys ↔ schema.defaultDiagram.Mentions schema name)
    (hfits : ∀ name ∈ positions.keys, Name.Fits name.toList) :
    (schema.diagramAt positions).Legible where
  name_ne := show defaultDiagramName ≠ "" by decide
  strip_name :=
    show Text.strip defaultDiagramName.toList = defaultDiagramName.toList by decide +kernel
  bracket := show ']' ∉ defaultDiagramName.toList by decide
  newline_name := show '\n' ∉ defaultDiagramName.toList by decide
  newline_label e he := (fits_label_diagramAt hk hkeys hfits he).1
  avoids :=
    ⟨show ¬ Block.commentClose <:+: defaultDiagramName.toList by decide,
      fun e he => (fits_label_diagramAt hk hkeys hfits he).2⟩
  qualified e he := by
    rcases mem_entries_diagramAt.1 he with ⟨name, -, rfl⟩ | ⟨item, hi, rfl⟩
    · trivial
    · exact mem_of_contains hk ((hkeys item.1).1 (List.mem_map_of_mem hi)).1

/-- At whole positions it can be saved into every text. -/
theorem exists_save_diagramAt (schema : Schema) (hwhole : positions.Whole) (text : String) :
    ∃ saved, Block.save text (DiagramSet.ofDiagrams [schema.diagramAt positions]) = .ok saved := by
  have hlines : ∀ d ∈ (DiagramSet.ofDiagrams [schema.diagramAt positions]).values,
      ∀ e ∈ d.entries, ∃ line, e.line true = .ok line := by
    intro d hd e he
    rw [List.mem_singleton.1 hd] at he
    rcases mem_entries_diagramAt.1 he with ⟨name, -, rfl⟩ | ⟨item, hi, rfl⟩
    · exact ⟨_, rfl⟩
    · obtain ⟨⟨m, -, hx⟩, n, -, hy⟩ := hwhole item.1 item.2 (Registry.get?_eq_some.2 hi)
      exact ⟨_, Entry.line_of_round (Number.round_of_units hx) (Number.round_of_units hy)⟩
  obtain ⟨block, hblock⟩ := Block.exists_write hlines
  exact ⟨_, except_bind_eq_ok.2 ⟨block, hblock, rfl⟩⟩

end Schema

/-! ## Opening a saved text -/

/-- Whether the diagram called `name` shows the tables at the positions, and the edges, whatever the
generator does. -/
def DiagramSet.Shows (diagrams : DiagramSet) (name : String) (schema : Schema)
    (positions : Positions) (edges : List ForeignKey) : Prop :=
  ∀ (τ : Type) (g : Generator τ) (s : τ), ∃ picture t,
    diagrams.resolve name schema g s = .ok picture t ∧ picture.positions.Same positions ∧
      picture.edges = edges

/-- Whether a text can be opened as a file with the schema of another one, and its diagram `main`
shows the tables at the positions, and the edges. -/
def Loaded.Reopens (l : Loaded) (positions : Positions) (edges : List ForeignKey) (saved : String) :
    Prop :=
  ∃ l', Loaded.ofText saved = .ok l' ∧ l'.schema = l.schema ∧
    l'.diagrams.Shows defaultDiagramName l'.schema positions edges

/-- A diagram that has come back shows the whole places that it stored. -/
theorem DiagramSet.shows_of_reread {diagrams : DiagramSet} {name : String} {d d' : Diagram}
    (hd : diagrams.get? name = some d') (hr : d.Reread d')
    (hkeys : ∀ table, table ∈ positions.keys ↔ d.Mentions schema table)
    (hstored : ∀ table p, positions.get? table = some p → d.stored.get? table = some p)
    (hwhole : positions.Whole) :
    diagrams.Shows name schema positions (Picture.draw schema positions).edges := by
  intro τ g s
  have hplace : ∀ table p, positions.get? table = some p →
      ∃ p', d'.stored.get? table = some p' ∧ p'.Same p := by
    intro table p hp
    have hrel := hr.get?_stored table
    rw [hstored table p hp] at hrel
    obtain ⟨p', hp', hpp⟩ := exists_of_rel_some_left hrel
    exact ⟨p', hp', hpp.same (hwhole table p hp)⟩
  have hall : ∀ table, d'.Mentions schema table → table ∈ d'.stored.keys := by
    intro table hm
    obtain ⟨p, hp⟩ := Registry.exists_get? ((hkeys table).2 (hr.mentions.1 hm))
    obtain ⟨p', hp', -⟩ := hplace table p hp
    exact Registry.mem_keys_of_get? hp'
  obtain ⟨picture, hpicture⟩ := DiagramSet.exists_resolve_of_stored hd hall g s
  have hshown : ∀ table, table ∈ positions.keys ↔ table ∈ picture.positions.keys := by
    intro table
    rw [DiagramSet.mem_keys_resolve hpicture hd, hr.mentions, hkeys]
  refine ⟨picture, s, hpicture, fun table => ?_, DiagramSet.edges_resolve hpicture hshown⟩
  cases hp : positions.get? table with
  | none =>
    have hnot : table ∉ picture.positions.keys := fun hk =>
      Registry.get?_eq_none.1 hp ((hshown table).2 hk)
    rw [Registry.get?_eq_none.2 hnot]
    exact .none
  | some p =>
    obtain ⟨p', hp', hsame⟩ := hplace table p hp
    have hc := ((hkeys table).1 (Registry.mem_keys_of_get? hp)).1
    have hstores : diagrams.Stores name table p' := ⟨d', hd, hp'⟩
    rw [hstores.get?_resolve hc hpicture]
    exact .some hsame

namespace Loaded

variable {text saved : String} {l : Loaded} {edges : List ForeignKey}

/-- A script without a layout that has been saved can be opened again when all tables on the diagram
have names that fit into a line. -/
theorem reopens_of_fits (hload : ofText text = .ok l) (hlocate : Block.locate text.toList = none)
    (hsave : Block.save text (DiagramSet.ofDiagrams [l.schema.diagramAt positions]) = .ok saved)
    (hkeys : ∀ name, name ∈ positions.keys ↔ l.schema.defaultDiagram.Mentions l.schema name)
    (hwhole : positions.Whole)
    (hfits : ∀ name ∈ positions.keys, Name.Fits name.toList) :
    l.Reopens positions (Picture.draw l.schema positions).edges saved := by
  obtain ⟨hschema, htables, -⟩ := ofText_eq_ok hload
  have hlegible : ∀ d ∈ (DiagramSet.ofDiagrams [l.schema.diagramAt positions]).values,
      d.Legible := by
    intro d hd
    rw [List.mem_singleton.1 hd]
    exact Schema.legible_diagramAt (hschema ▸ Schema.keyed_ofText text) hkeys hfits
  obtain ⟨block, hblock, hsaved⟩ := except_bind_eq_ok.1 hsave
  have htext : saved.toList = block.toList ++ '\n' :: '\n' :: text.toList := by
    rw [← Except.ok.inj hsaved, Block.spliceText, String.toList_ofList, Block.splice, hlocate]
  obtain ⟨ds', diagrams, hds, hitems, hread⟩ :=
    Block.readText_write hblock hlegible (List.nodup_cons.2 ⟨List.not_mem_nil, List.nodup_nil⟩)
  obtain ⟨ws, hread, -⟩ := hread saved _ htext
  obtain ⟨d', _, hreread, hnil, rfl⟩ := List.forall₂_cons_left_iff.1 hds
  cases hnil
  have hcontents := Block.contents_save hsave (fun d hd => (hlegible d hd).avoids)
    (by simp [hlocate])
  have hsame : (Schema.ofText saved).1 = l.schema :=
    (Schema.ofTokens_of_contents hcontents).1.trans hschema.symm
  obtain ⟨l', hload', hschema', rfl⟩ :=
    exists_ofText (by rw [hsame]; exact htables) hread (by simp [hitems])
  refine ⟨l', hload', hschema'.trans hsame, ?_⟩
  rw [hschema'.trans hsame]
  have hget : l'.diagrams.get? defaultDiagramName = some d' := by
    rw [Registry.get?_eq_some, hitems]
    exact List.mem_singleton.2 (Prod.ext hreread.1.symm rfl)
  have hmentions : ∀ name, name ∈ positions.keys ↔
      (l.schema.diagramAt positions).Mentions l.schema name := fun name =>
    (hkeys name).trans (Diagram.mentions_materialize fun name hn => (hkeys name).1 hn).symm
  exact DiagramSet.shows_of_reread hget hreread hmentions
    (fun _ _ hp => Diagram.get?_stored_materialize _ hp) hwhole

/-- Whatever can be opened again with tables at whole places, their names fit into a line. -/
theorem fits_of_reopens (h : l.Reopens positions edges saved) (hwhole : positions.Whole) :
    ∀ name ∈ positions.keys, Name.Fits name.toList := by
  intro name hn
  obtain ⟨l', hload', -, hshows⟩ := h
  obtain ⟨p, hp⟩ := Registry.exists_get? hn
  -- A generator that puts everything at another place shows that the place is stored.
  obtain ⟨q, hq⟩ := (hwhole name p hp).exists_not_same
  obtain ⟨picture, t, hpicture, hsame, -⟩ := hshows Unit (Generator.constant q) ()
  obtain ⟨d, placed, hd, hplace, -, hpos, -⟩ := DiagramSet.resolve_eq_ok hpicture
  obtain ⟨more, hmore, rfl⟩ := Selection.place_eq_ok.1 hplace
  have hname := hsame name
  rw [hp] at hname
  obtain ⟨p', hp', hpp⟩ := exists_of_rel_some_right hname
  rw [hpos, Selection.get?_complete, Option.bind_eq_some_iff] at hp'
  obtain ⟨place, hselected, hplaced⟩ := hp'
  classical
  rw [Diagram.get?_select] at hselected
  split at hselected
  · cases hs : d.stored.get? name with
    | some r =>
      have hentry : name ∈ d.tableNames :=
        List.mem_filterMap.2 ⟨_, Diagram.placed_mem_of_stored hs, rfl⟩
      exact tablesFit_ofText hload' _ d hd name hentry
    | none =>
      rw [hs, Option.some.injEq] at hselected
      rw [← hselected, Option.none_or] at hplaced
      rw [Generator.eq_of_placeAll_constant hmore hplaced] at hpp
      exact absurd hpp hq
  · cases hselected

/-- A script without a layout is opened, and the tables on its default diagram are put at whole
places. Saving them succeeds and calls no generator. The saved text can be opened again with the
same schema, and with the same picture whatever the generator, exactly when the names of all these
tables fit into a line of a block. -/
theorem reopens_iff (hload : ofText text = .ok l) (hmarker : ¬ Block.marker <:+: text.toList)
    {g : Generator σ} {s t : σ} {picture : Picture}
    (hmain : l.diagrams.resolve defaultDiagramName l.schema g s = .ok picture t)
    (hkeys : ∀ name, name ∈ positions.keys ↔ name ∈ picture.positions.keys)
    (hwhole : positions.Whole) :
    ∃ saved, (∀ (τ : Type) (g : Generator τ) (s : τ),
        l.diagrams.prepareSave text defaultDiagramName positions g s = .ok saved s) ∧
      (l.Reopens positions picture.edges saved ↔
        ∀ name ∈ positions.keys, Name.Fits name.toList) := by
  have hlocate := Block.locate_eq_none hmarker
  have hdefault := diagrams_eq_of_locate hload hlocate
  rw [hdefault] at hmain ⊢
  have hmentions : ∀ name, name ∈ positions.keys ↔
      l.schema.defaultDiagram.Mentions l.schema name := by
    intro name
    rw [hkeys, DiagramSet.mem_keys_resolve hmain (Registry.get?_eq_some.2 List.mem_cons_self)]
  obtain ⟨saved, hsave⟩ := l.schema.exists_save_diagramAt hwhole text
  refine ⟨saved, fun τ g s => ?_, fun h => fits_of_reopens h hwhole, fun hfits => ?_⟩
  · rw [DiagramSet.prepareSave, bind_of_ok (Schema.prepare_defaultDiagrams _ _ g s), Placing.save,
      hsave]
  · rw [DiagramSet.edges_resolve hmain hkeys]
    exact reopens_of_fits hload hlocate hsave hmentions hwhole hfits

/-! A table whose name holds a closing mark ends the block too early. -/

/-- A script with a closing mark in the name of a table. -/
def markedScript : String :=
  "CREATE TABLE s.\"a*/b\" (c int);"

/-- The table. -/
def markedTable : Table :=
  ⟨"s", "a*/b", [⟨"c", "int", true, false⟩], []⟩

/-- The schema of the script. -/
def markedSchema : Schema :=
  ⟨.ofList [(markedTable.qualifiedName, markedTable)], []⟩

/-- What the file holds. -/
def markedFile : Loaded :=
  ⟨markedSchema, markedSchema.defaultDiagrams, [], false⟩

/-- The place of the table. -/
def markedPlace : Position :=
  ⟨.whole 7, .whole 8⟩

/-- A save with the place of the table succeeds, and the saved text cannot be opened again with that
place. -/
theorem markedScript_not_reopened :
    let picture : Picture := ⟨[⟨"s.a*/b", markedPlace, markedTable⟩], []⟩
    let positions : Positions := .ofList [("s.a*/b", markedPlace)]
    ofText markedScript = .ok markedFile ∧ ¬ Block.marker <:+: markedScript.toList ∧
      markedFile.diagrams.resolve defaultDiagramName markedFile.schema
        (Generator.constant markedPlace) () = .ok picture () ∧
      (∀ name, name ∈ positions.keys ↔ name ∈ picture.positions.keys) ∧
      positions.Whole ∧
      ∃ saved, (∀ (τ : Type) (g : Generator τ) (s : τ),
        markedFile.diagrams.prepareSave markedScript defaultDiagramName positions g s
          = .ok saved s) ∧
        ¬ markedFile.Reopens positions [] saved := by
  intro picture positions
  have hload : ofText markedScript = .ok markedFile := by decide +kernel
  have hmarker : ¬ Block.marker <:+: markedScript.toList := by decide +kernel
  have hmain : markedFile.diagrams.resolve defaultDiagramName markedFile.schema
      (Generator.constant markedPlace) () = .ok picture () := by rfl
  have hkeys : ∀ name, name ∈ positions.keys ↔ name ∈ picture.positions.keys := fun _ => Iff.rfl
  have hwhole : positions.Whole := by
    intro name p hp
    obtain ⟨-, rfl⟩ := Prod.mk.inj (List.mem_singleton.1 (Registry.get?_eq_some.1 hp))
    exact ⟨Number.whole_of_natAbs_lt rfl (by decide), Number.whole_of_natAbs_lt rfl (by decide)⟩
  obtain ⟨saved, hsaved, hiff⟩ := reopens_iff hload hmarker hmain hkeys hwhole
  refine ⟨hload, hmarker, hmain, hkeys, hwhole, saved, hsaved, fun h => ?_⟩
  exact absurd (hiff.1 h "s.a*/b" (by decide +kernel)) (by decide +kernel)

end Loaded

end SchemaCanvas
