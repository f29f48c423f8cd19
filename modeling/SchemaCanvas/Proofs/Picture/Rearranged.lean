import SchemaCanvas.Proofs.Picture.Resolved

/-!
# Diagrams with rearranged entries

What a diagram selects does not depend on where its entries stand, but for the entries that give
coordinates to one table: of these the last one counts. Two diagrams with the same entries select
the same tables at the same places just when each table has the same last place in both
(`Diagram.select_perm_iff`). So entries may be rearranged as long as those with coordinates of one
table keep their order, and wildcards may stand anywhere (`Diagram.select_rearranged`).
-/

namespace SchemaCanvas

namespace Diagram

variable {d d' : Diagram} {table : String}

/-- The entries of a table that have coordinates, in order. -/
def placementsOf (d : Diagram) (table : String) : List Entry :=
  d.entries.filter fun e => e.tableName? = some table && e.position?.isSome

/-- The entries of tables, in order. -/
def tableEntries (d : Diagram) : List Entry :=
  d.entries.filter fun e => e.tableName?.isSome

/-- The second diagram has the entries of the first one in another order, which keeps the order of
the entries of one table that have coordinates. -/
structure Rearranged (d d' : Diagram) : Prop where
  perm : d.entries.Perm d'.entries
  placements : ∀ table, d.placementsOf table = d'.placementsOf table

/-- The second diagram has the entries of the first one, with the wildcards at other places. -/
structure WildcardsMoved (d d' : Diagram) : Prop where
  perm : d.entries.Perm d'.entries
  tableEntries : d.tableEntries = d'.tableEntries

/-! ## Entries with coordinates -/

/-- The places that entries give to a table come from its entries with coordinates. -/
theorem filterMap_placementsOf (d : Diagram) (table : String) :
    (d.placementsOf table).filterMap (Entry.placeOf? table)
      = d.entries.filterMap (Entry.placeOf? table) := by
  have hplace : ∀ e : Entry, (if e.tableName? = some table && e.position?.isSome then
      e.placeOf? table else none) = e.placeOf? table := by
    rintro (schema | ⟨name, _ | x, _ | y⟩)
    · rfl
    · simp [Entry.placeOf?]
    · simp [Entry.placeOf?]
    · simp [Entry.placeOf?]
    · by_cases hname : name = table
      · simp [Entry.tableName?, Entry.position?, hname]
      · simp [Entry.tableName?, Entry.placeOf?, hname]
  rw [placementsOf, List.filterMap_filter, funext hplace]

/-- Rearranging the entries keeps the last place of every table. -/
theorem Rearranged.lastPlace?_eq (h : d.Rearranged d') (table : String) :
    d.lastPlace? table = d'.lastPlace? table := by
  rw [lastPlace?, ← filterMap_placementsOf, h.placements, filterMap_placementsOf, lastPlace?]

/-- A table without an entry has no entry with coordinates. -/
theorem placementsOf_of_not_mem (h : table ∉ d.tableNames) : d.placementsOf table = [] := by
  refine List.filter_eq_nil_iff.2 fun e he hplacement => h ?_
  rw [Bool.and_eq_true, decide_eq_true_eq] at hplacement
  exact List.mem_filterMap.2 ⟨e, he, hplacement.1⟩

/-- Only the tables with an entry have to be looked at. -/
theorem rearranged_iff : d.Rearranged d' ↔ d.entries.Perm d'.entries ∧
    ∀ table ∈ d.tableNames, d.placementsOf table = d'.placementsOf table := by
  constructor
  · exact fun h => ⟨h.perm, fun table _ => h.placements table⟩
  · rintro ⟨hperm, hplacements⟩
    refine ⟨hperm, fun table => ?_⟩
    by_cases ht : table ∈ d.tableNames
    · exact hplacements table ht
    · have ht' : table ∉ d'.tableNames := fun h => ht ((hperm.filterMap _).mem_iff.2 h)
      rw [placementsOf_of_not_mem ht, placementsOf_of_not_mem ht']

instance (d d' : Diagram) : Decidable (d.Rearranged d') :=
  decidable_of_iff _ rearranged_iff.symm

/-- Wildcards have no coordinates, so moving them leaves the order of the entries that have. -/
theorem WildcardsMoved.rearranged (h : d.WildcardsMoved d') : d.Rearranged d' where
  perm := h.perm
  placements table := by
    have hentries : ∀ d : Diagram, d.placementsOf table
        = d.tableEntries.filter fun e => e.tableName? = some table && e.position?.isSome := by
      intro d
      rw [Diagram.tableEntries, List.filter_filter, placementsOf]
      refine List.filter_congr fun e _ => ?_
      cases e <;> simp [Entry.tableName?]
    rw [hentries, h.tableEntries, ← hentries]

/-! ## What is selected -/

/-- Which tables a diagram mentions does not depend on the order of its entries. -/
theorem mentions_of_perm (h : d.entries.Perm d'.entries) {schema : Schema}
    (hm : d.Mentions schema table) : d'.Mentions schema table := by
  obtain ⟨hc, e, he, htable⟩ := hm
  exact ⟨hc, e, h.mem_iff.1 he, htable⟩

/-- Diagrams with the same entries select the same tables at the same places when these tables have
the same last places, and only then. -/
theorem select_perm_iff (h : d.entries.Perm d'.entries) (schema : Schema) :
    (d.select schema).items.Perm (d'.select schema).items ↔
      ∀ table, d.Mentions schema table → d.lastPlace? table = d'.lastPlace? table := by
  classical
  have hmentions : ∀ table, d'.Mentions schema table ↔ d.Mentions schema table := fun table =>
    ⟨mentions_of_perm h.symm, mentions_of_perm h⟩
  rw [Registry.items_perm_iff]
  refine forall_congr' fun table => ?_
  rw [get?_select, get?_select, get?_stored_eq, get?_stored_eq, hmentions]
  by_cases hm : d.Mentions schema table
  · simp [hm]
  · simp [hm]

/-- **Entry order matters only among the coordinates of one table.** Whatever the schema, diagrams
with the same entries in another order that keeps the order of the entries of one table that have
coordinates select the same tables at the same places. So do diagrams whose wildcards stand at other
places. -/
theorem select_rearranged (schema : Schema) (d d' : Diagram) :
    (d.Rearranged d' → (d.select schema).items.Perm (d'.select schema).items) ∧
      (d.WildcardsMoved d' → (d.select schema).items.Perm (d'.select schema).items) := by
  have hselect : d.Rearranged d' → (d.select schema).items.Perm (d'.select schema).items :=
    fun h => (select_perm_iff h.perm schema).2 fun table _ => h.lastPlace?_eq table
  exact ⟨hselect, fun h => hselect h.rearranged⟩

end Diagram

/-! Repeated wildcards, a table that is gone, and a table with a bare entry and two places, in three
orders. -/

/-- A diagram before its entries are rearranged. -/
def orderedDiagram : Diagram :=
  ⟨"main", [.wildcard "a", .table "a.x" none none, .placed "a.x" ⟨.whole 1, .whole 2⟩,
    .wildcard "a", .placed "c.gone" ⟨.whole 5, .whole 6⟩, .placed "a.x" ⟨.whole 3, .whole 4⟩]⟩

/-- The diagram with all of its entries rearranged. -/
def shuffledDiagram : Diagram :=
  ⟨"main", [.placed "c.gone" ⟨.whole 5, .whole 6⟩, .placed "a.x" ⟨.whole 1, .whole 2⟩,
    .placed "a.x" ⟨.whole 3, .whole 4⟩, .wildcard "a", .wildcard "a", .table "a.x" none none]⟩

/-- The diagram with its wildcards moved. -/
def wildcardsLast : Diagram :=
  ⟨"main", [.table "a.x" none none, .placed "a.x" ⟨.whole 1, .whole 2⟩,
    .placed "c.gone" ⟨.whole 5, .whole 6⟩, .placed "a.x" ⟨.whole 3, .whole 4⟩, .wildcard "a",
    .wildcard "a"]⟩

/-- The rearranged entries and the moved wildcards select the same tables at the same places. -/
theorem select_shuffledDiagram :
    let schema := (Schema.ofText "CREATE TABLE a.w (); CREATE TABLE a.x ();").1
    orderedDiagram.Rearranged shuffledDiagram ∧ orderedDiagram.WildcardsMoved wildcardsLast ∧
      (orderedDiagram.select schema).items.Perm (shuffledDiagram.select schema).items ∧
      (orderedDiagram.select schema).items.Perm (wildcardsLast.select schema).items ∧
      (shuffledDiagram.select schema).items
        = [("a.x", some ⟨.whole 3, .whole 4⟩), ("a.w", none)] := by
  intro schema
  have hshuffled : orderedDiagram.Rearranged shuffledDiagram := by decide
  have hmoved : orderedDiagram.WildcardsMoved wildcardsLast := ⟨by decide, by decide⟩
  have hitems : (shuffledDiagram.select schema).items
      = [("a.x", some ⟨.whole 3, .whole 4⟩), ("a.w", none)] := by decide +kernel
  exact ⟨hshuffled, hmoved, (Diagram.select_rearranged schema _ _).1 hshuffled,
    (Diagram.select_rearranged schema _ _).2 hmoved, hitems⟩

end SchemaCanvas
