import SchemaCanvas.Proofs.Layout.Resaved
import SchemaCanvas.Proofs.Picture.Fitting
import SchemaCanvas.Proofs.Picture.Refreshed
import SchemaCanvas.Proofs.Picture.Reread

/-!
# Diagrams that a layout leaves alone

A diagram is settled for a schema when its entries are of tables of the schema, it stores a place of
every table that it shows, and every entry of a table has that place (`Diagram.Settled`). The
positions of its tables change nothing when they are written into it
(`Diagram.Settled.materialize_place`), and no generator is needed to find them
(`Diagram.Settled.place_eq`). Placing the tables of a diagram settles it
(`Diagram.settled_materialize`), and so it is when it comes back from a file
(`Diagram.Settled.of_reread`).
-/

namespace SchemaCanvas

variable {σ : Type} {schema : Schema} {d : Diagram}

/-- Whether a diagram has nothing left to do for a schema: no entry to drop, no table to place, and
no entry to move. -/
structure Diagram.Settled (d : Diagram) (schema : Schema) : Prop where
  contains : ∀ name ∈ d.tableNames, schema.contains name = true
  stored : ∀ table, d.Mentions schema table → table ∈ d.stored.keys
  placed : ∀ e ∈ d.entries, ∀ name p, e.tableName? = some name → d.stored.get? name = some p →
    e = .placed name p

/-- A table of the schema that has an entry is shown. -/
theorem Diagram.mentions_of_mem {name : String} (hc : schema.contains name = true)
    (hn : name ∈ d.tableNames) : d.Mentions schema name := by
  obtain ⟨e, he, hname⟩ := List.mem_filterMap.1 hn
  refine ⟨hc, e, he, ?_⟩
  cases e with
  | wildcard schemaName => cases hname
  | table table x y =>
    cases hname
    exact List.mem_singleton_self _

namespace Diagram.Settled

/-- A settled diagram has no entry to drop. -/
theorem prune_eq (h : d.Settled schema) : d.prune schema = d :=
  Diagram.prune_of_contains h.contains

/-- The places of its tables are those that it stores; no generator is called. -/
theorem place_eq (h : d.Settled schema) (g : Generator σ) (s : σ) :
    (d.select schema).place g s = .ok ((d.select schema).complete ∅) s := by
  refine Selection.place_of_placed (fun table ht => ?_) g s
  have hmentions := Diagram.mem_keys_select.1 (Registry.mem_keys_of_get? ht)
  obtain ⟨p, hp⟩ := Registry.exists_get? (h.stored table hmentions)
  rw [Diagram.get?_select_of_stored hmentions.1 hp] at ht
  cases ht

/-- It stores a place of every table with an entry. -/
theorem mem_stored (h : d.Settled schema) {name : String} (hn : name ∈ d.tableNames) :
    name ∈ d.stored.keys :=
  h.stored name (Diagram.mentions_of_mem (h.contains name hn) hn)

/-- Writing the places of its tables into it changes nothing. -/
theorem materialize_place (h : d.Settled schema) {g : Generator σ} {positions : Positions} {s t : σ}
    (hplace : (d.select schema).place g s = .ok positions t) : d.materialize positions = d := by
  have hstored : ∀ name p, positions.get? name = some p → d.stored.get? name = some p := by
    intro name p hp
    have hselected := (Selection.mem_keys_place hplace name).1 (Registry.mem_keys_of_get? hp)
    have hmentions := Diagram.mem_keys_select.1 hselected
    obtain ⟨q, hq⟩ := Registry.exists_get? (h.stored name hmentions)
    rw [Selection.get?_place hplace (Diagram.get?_select_of_stored hmentions.1 hq)] at hp
    rw [hq, hp]
  have hpending : positions.items.filter (fun item => decide (item.1 ∉ d.tableNames)) = [] := by
    refine List.filter_eq_nil_iff.2 fun item hi => ?_
    have hitem := hstored item.1 item.2 (Registry.get?_eq_some.2 hi)
    have hname : item.1 ∈ d.tableNames :=
      List.mem_filterMap.2 ⟨_, Diagram.placed_mem_of_stored hitem, rfl⟩
    simpa using hname
  have hentries : ∀ e ∈ d.entries, e.moveTo positions = e := by
    intro e he
    cases e with
    | wildcard schemaName => rfl
    | table name x y =>
      cases hp : positions.get? name with
      | none => simp only [Entry.moveTo, hp]
      | some p =>
        rw [Entry.moveTo_of_get? hp rfl]
        exact (h.placed _ he name p rfl (hstored name p hp)).symm
  have hmap := (List.map_congr_left hentries).trans (List.map_id' _)
  rw [Diagram.materialize, hpending, Entry.materialize_nil, hmap]

end Diagram.Settled

/-! ## Diagrams that become settled -/

/-- A diagram of tables of the schema is settled by the places of its tables. -/
theorem Diagram.settled_materialize (hd : ∀ name ∈ d.tableNames, schema.contains name = true)
    {g : Generator σ} {positions : Positions} {s t : σ}
    (hplace : (d.select schema).place g s = .ok positions t) :
    (d.materialize positions).Settled schema := by
  have hmentions : ∀ name ∈ positions.keys, d.Mentions schema name := fun name hn =>
    Diagram.mem_keys_select.1 ((Selection.mem_keys_place hplace name).1 hn)
  have hplaced : ∀ name, d.Mentions schema name → ∃ p, positions.get? name = some p := by
    intro name hm
    exact Registry.exists_get?
      ((Selection.mem_keys_place hplace name).2 (Diagram.mem_keys_select.2 hm))
  constructor
  case contains =>
    intro name hn
    exact Diagram.contains_of_mem_materialize hd (fun table ht => (hmentions table ht).1) hn
  case stored =>
    intro table hm
    obtain ⟨p, hp⟩ := hplaced table ((Diagram.mentions_materialize hmentions).1 hm)
    exact Registry.mem_keys_of_get? (Diagram.get?_stored_materialize d hp)
  case placed =>
    intro e he name p hname hp
    have hposition : ∃ q, positions.get? name = some q := by
      rcases Entry.mem_materialize.1 he with ⟨e', he', rfl⟩ | ⟨item, hi, rfl⟩
      · rw [Entry.tableName?_moveTo] at hname
        have hn : name ∈ d.tableNames := List.mem_filterMap.2 ⟨e', he', hname⟩
        exact hplaced name (Diagram.mentions_of_mem (hd name hn) hn)
      · cases hname
        exact ⟨item.2, Registry.get?_eq_some.2 (List.mem_filter.1 hi).1⟩
    obtain ⟨q, hq⟩ := hposition
    obtain rfl : q = p :=
      Option.some.inj ((Diagram.get?_stored_materialize d hq).symm.trans hp)
    rcases Entry.mem_materialize.1 he with ⟨e', he', rfl⟩ | ⟨item, hi, rfl⟩
    · rw [Entry.tableName?_moveTo] at hname
      exact Entry.moveTo_of_get? hq hname
    · cases hname
      rw [Registry.get?_eq_some.2 (List.mem_filter.1 hi).1] at hq
      cases hq
      rfl

/-- An entry comes back with the table that it was written with. -/
theorem Entry.Reread.tableName?_eq {e e' : Entry} (h : e.Reread e') :
    e'.tableName? = e.tableName? := by
  cases h <;> rfl

/-- A settled diagram is settled when it is read from the file that it was written to. -/
theorem Diagram.Settled.of_reread (h : d.Settled schema) {d' : Diagram} (hr : d.Reread d') :
    d'.Settled schema := by
  constructor
  case contains =>
    intro name hn
    obtain ⟨e', he', hname⟩ := List.mem_filterMap.1 hn
    obtain ⟨e, he, hee⟩ := forall₂_exists_of_mem_right hr.2 he'
    rw [hee.tableName?_eq] at hname
    exact h.contains name (List.mem_filterMap.2 ⟨e, he, hname⟩)
  case stored =>
    intro table hm
    obtain ⟨p, hp⟩ := Registry.exists_get? (h.stored table (hr.mentions.1 hm))
    obtain ⟨p', hp', -⟩ := exists_of_rel_some_left (hp ▸ hr.get?_stored table)
    exact Registry.mem_keys_of_get? hp'
  case placed =>
    intro e' he' name p' hname hp'
    obtain ⟨e, he, hee⟩ := forall₂_exists_of_mem_right hr.2 he'
    obtain ⟨p, hp, m, n, hx, hy, rfl⟩ := exists_of_rel_some_right (hp' ▸ hr.get?_stored name)
    rw [hee.tableName?_eq] at hname
    rw [h.placed e he name p hname hp] at hee
    cases hee with
    | unplaced hnone => cases hnone
    | placed hx' hy' =>
      rw [hx] at hx'
      rw [hy] at hy'
      cases hx'
      cases hy'
      rfl

end SchemaCanvas
