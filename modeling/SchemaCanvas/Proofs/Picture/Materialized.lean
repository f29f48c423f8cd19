import Mathlib.Data.List.Nodup
import SchemaCanvas.Proofs.Picture.Refreshed

/-!
# Where written positions stand

Writing positions into a diagram keeps its entries in their order and adds one entry for each table
that had none: behind the first wildcard of the table's schema, or else at the end, and among
several at one place in the order of the positions. `Diagram.Materialized` says this of a diagram
without a list of pending items that shrinks on the way. It holds of one diagram only, the one that
is written (`Diagram.materialized_iff`).
-/

namespace SchemaCanvas

/-- What becomes of an entry when positions are written. -/
inductive Entry.Kept (positions : Positions) : Entry → Entry → Prop
  | wildcard (schema : String) : Kept positions (.wildcard schema) (.wildcard schema)
  | placed {name : String} {x y : Option Number} {p : Position}
    (h : positions.get? name = some p) : Kept positions (.table name x y) (.placed name p)
  | untouched {name : String} {x y : Option Number} (h : name ∉ positions.keys) :
    Kept positions (.table name x y) (.table name x y)

/-- The number of the first wildcard among the entries that is for the schema of the table. -/
def Entry.wildcardOf? (es : List Entry) (table : String) : Option Nat :=
  es.findIdx? fun e => e = .wildcard (schemaOf table)

/-- New entries for the items that belong behind the wildcard of a number, or that belong behind
none, in the order of the items. -/
def Entry.added (es : List Entry) (items : List (String × Position)) (slot : Option Nat) :
    List Entry :=
  (items.filter fun item => wildcardOf? es item.1 = slot).map fun item => .placed item.1 item.2

/-- The items of the positions whose tables have no entry of their own, in order. -/
def Diagram.unlisted (d : Diagram) (positions : Positions) : List (String × Position) :=
  positions.items.filter fun item => item.1 ∉ d.tableNames

/-- The second diagram is the first one with the positions written into it. -/
structure Diagram.Materialized (d : Diagram) (positions : Positions) (d' : Diagram) : Prop where
  name : d'.name = d.name
  /-- The old entries stay in order, with new ones behind the wildcards and at the end. -/
  entries : ∃ kept, List.Forall₂ (Entry.Kept positions) d.entries kept ∧
    d'.entries
      = (kept.zipIdx.flatMap fun e =>
          e.1 :: Entry.added d.entries (d.unlisted positions) (some e.2)) ++
        Entry.added d.entries (d.unlisted positions) none
  /-- A table that had no entry has one. -/
  once : ∀ name p, positions.get? name = some p → name ∉ d.tableNames →
    d'.entries.filter (fun e => e.tableName? = some name) = [.placed name p]

/-! ## Entries that are kept -/

/-- An entry becomes what moving it to its position makes of it, and nothing else. -/
theorem Entry.kept_iff {positions : Positions} {e e' : Entry} :
    Entry.Kept positions e e' ↔ e' = e.moveTo positions := by
  constructor
  · rintro (schema | h | h)
    · rfl
    · exact (Entry.moveTo_of_get? h rfl).symm
    · simp only [moveTo, Registry.get?_eq_none.2 h]
  · rintro rfl
    cases e with
    | wildcard schema => exact .wildcard schema
    | table name x y =>
      cases h : positions.get? name with
      | some p =>
        rw [Entry.moveTo_of_get? h rfl]
        exact .placed h
      | none =>
        simp only [moveTo, h]
        exact .untouched (Registry.get?_eq_none.1 h)

/-- The entries of a diagram become what moving each of them makes of it. -/
theorem Entry.forall₂_kept_iff {positions : Positions} {es kept : List Entry} :
    List.Forall₂ (Entry.Kept positions) es kept ↔ kept = es.map (Entry.moveTo positions) := by
  have hkept : Entry.Kept positions = fun e e' => e' = e.moveTo positions :=
    funext fun _ => funext fun _ => propext Entry.kept_iff
  rw [hkept, eq_comm, ← List.forall₂_eq_eq_eq, List.forall₂_map_left_iff]
  simp only [eq_comm]

/-! ## Entries that are added -/

namespace Entry

variable {positions : Positions} {pending : List (String × Position)} {e : Entry} {es : List Entry}

/-- One step through the entries: an entry takes the pending items that it is the wildcard of. -/
theorem materialize_cons (positions : Positions) (pending : List (String × Position)) (e : Entry)
    (es : List Entry) :
    materialize positions pending (e :: es)
      = e.moveTo positions ::
          ((pending.filter fun item => e = .wildcard (schemaOf item.1)).map
            fun item => .placed item.1 item.2) ++
          materialize positions
            (pending.filter fun item => !decide (e = .wildcard (schemaOf item.1))) es := by
  cases e with
  | wildcard schema =>
    rw [materialize_wildcard]
    simp only [wildcard.injEq, eq_comm]
    rfl
  | table name x y =>
    have hnone : ∀ schema, Entry.table name x y ≠ .wildcard schema := nofun
    have hmatched : (pending.filter fun item => Entry.table name x y = .wildcard (schemaOf item.1))
        = [] := List.filter_eq_nil_iff.2 fun item _ => by simp [hnone]
    have hothers : (pending.filter fun item =>
        !decide (Entry.table name x y = .wildcard (schemaOf item.1))) = pending :=
      List.filter_eq_self.2 fun item _ => by simp [hnone]
    rw [materialize_table, hmatched, hothers]
    rfl

/-- An entry in front is the wildcard of a table, or moves the number of that wildcard by one. -/
theorem wildcardOf?_cons (e : Entry) (es : List Entry) (table : String) :
    wildcardOf? (e :: es) table
      = if e = .wildcard (schemaOf table) then some 0 else (wildcardOf? es table).map (· + 1) := by
  simp only [wildcardOf?, List.findIdx?_cons, decide_eq_true_eq]

/-- Behind an entry in front come the items of its schema, when it is a wildcard. -/
theorem added_zero (e : Entry) (es : List Entry) (items : List (String × Position)) :
    added (e :: es) items (some 0)
      = (items.filter fun item => e = .wildcard (schemaOf item.1)).map
          fun item => .placed item.1 item.2 := by
  rw [added]
  congr 1
  refine List.filter_congr fun item _ => ?_
  rw [wildcardOf?_cons]
  by_cases h : e = .wildcard (schemaOf item.1) <;> simp [h]

/-- Items that the first entry is not the wildcard of belong where the further entries have them. -/
theorem added_succ (e : Entry) (es : List Entry) (items : List (String × Position))
    (slot : Option Nat) :
    added es (items.filter fun item => !decide (e = .wildcard (schemaOf item.1))) slot
      = added (e :: es) items (slot.map (· + 1)) := by
  rw [added, added, List.filter_filter]
  congr 1
  refine List.filter_congr fun item _ => ?_
  rw [wildcardOf?_cons]
  by_cases h : e = .wildcard (schemaOf item.1)
  · cases slot <;> simp [h]
  · cases slot <;> simp [h]

/-- The pass over the entries puts every pending item behind the first wildcard of its schema. -/
theorem materialize_eq_flatMap (positions : Positions) (pending : List (String × Position))
    (es : List Entry) :
    materialize positions pending es
      = ((es.map (moveTo positions)).zipIdx.flatMap fun e =>
          e.1 :: added es pending (some e.2)) ++ added es pending none := by
  induction es generalizing pending with
  | nil =>
    rw [materialize, added, List.filter_eq_self.2 fun item _ => by simp [wildcardOf?]]
    rfl
  | cons e es ih =>
    have hslots : ∀ slot, added es (pending.filter fun item =>
        !decide (e = .wildcard (schemaOf item.1))) slot
          = added (e :: es) pending (slot.map (· + 1)) := added_succ e es pending
    have hnumbers : ((es.map (moveTo positions)).zipIdx 1).flatMap
          (fun e' => e'.1 :: added (e :: es) pending (some e'.2))
        = (es.map (moveTo positions)).zipIdx.flatMap fun e' =>
            e'.1 :: added (e :: es) pending (some (e'.2 + 1)) := by
      rw [List.zipIdx_succ, List.flatMap_map]
    rw [materialize_cons, ih, List.map_cons, List.zipIdx_cons, List.flatMap_cons, added_zero,
      Nat.zero_add, hnumbers]
    simp only [hslots, Option.map_some, Option.map_none, List.append_assoc]

/-- Of the entries after materializing, those of a table that had none are the pending items'. -/
theorem filter_materialize_perm {name : String} (hnew : ∀ e ∈ es, e.tableName? ≠ some name)
    (positions : Positions) (pending : List (String × Position)) :
    ((materialize positions pending es).filter fun e => e.tableName? = some name).Perm
      ((pending.filter fun item => item.1 = name).map fun item => .placed item.1 item.2) := by
  have hplaced : ∀ items : List (String × Position),
      (items.map fun item => placed item.1 item.2).filter (fun e => e.tableName? = some name)
        = (items.filter fun item => item.1 = name).map fun item => .placed item.1 item.2 := by
    intro items
    rw [List.filter_map]
    simp [Function.comp_def, tableName?, placed]
  induction es generalizing pending with
  | nil => exact .of_eq (hplaced pending)
  | cons e es ih =>
    have he : ¬ (e.moveTo positions).tableName? = some name := by
      rw [tableName?_moveTo]
      exact hnew e List.mem_cons_self
    have hmore := ih (fun e' he' => hnew e' (List.mem_cons_of_mem e he'))
      (pending.filter fun item => !decide (e = .wildcard (schemaOf item.1)))
    rw [materialize_cons, List.cons_append, List.filter_cons_of_neg (by simpa using he),
      List.filter_append, hplaced]
    refine (hmore.append_left _).trans ?_
    rw [← List.map_append, ← List.filter_append]
    exact ((List.filter_append_perm _ pending).filter _).map _

end Entry

namespace Diagram

/-- A table of the positions that has no entry is among the unlisted ones, once. -/
theorem filter_unlisted {d : Diagram} {positions : Positions} {name : String} {p : Position}
    (hp : positions.get? name = some p) (hname : name ∉ d.tableNames) :
    (d.unlisted positions).filter (fun item => item.1 = name) = [(name, p)] := by
  have hnodup : ((d.unlisted positions).filter fun item => item.1 = name).Nodup :=
    ((List.Nodup.of_map Prod.fst positions.nodup_keys).filter _).filter _
  have hmem : ∀ item, item ∈ (d.unlisted positions).filter (fun item => item.1 = name) ↔
      item ∈ [(name, p)] := by
    intro item
    rw [unlisted, List.mem_filter, List.mem_filter, List.mem_singleton]
    constructor
    · rintro ⟨⟨hitem, -⟩, hkey⟩
      obtain rfl := of_decide_eq_true hkey
      have hvalue := Registry.get?_eq_some.2 hitem
      rw [hp, Option.some.injEq] at hvalue
      rw [hvalue]
    · rintro rfl
      exact ⟨⟨Registry.get?_eq_some.1 hp, decide_eq_true hname⟩, decide_eq_true rfl⟩
  exact List.perm_singleton.1
    ((List.perm_ext_iff_of_nodup hnodup (List.nodup_singleton _)).2 hmem)

/-- A table that had no entry has one after materializing, at its position. -/
theorem filter_materialize {d : Diagram} {positions : Positions} {name : String} {p : Position}
    (hp : positions.get? name = some p) (hname : name ∉ d.tableNames) :
    (d.materialize positions).entries.filter (fun e => e.tableName? = some name)
      = [.placed name p] := by
  have hnew : ∀ e ∈ d.entries, e.tableName? ≠ some name := fun e he htable =>
    hname (List.mem_filterMap.2 ⟨e, he, htable⟩)
  have hperm := Entry.filter_materialize_perm hnew positions (d.unlisted positions)
  rw [filter_unlisted hp hname] at hperm
  exact List.perm_singleton.1 hperm

/-- **Writing positions inserts exactly what is missing, in the right place.** The diagram with the
positions written into it is the one that is described, and no other one is. Writing the same
positions once more changes nothing. -/
theorem materialized_iff (d : Diagram) (positions : Positions) :
    (∀ d', d.Materialized positions d' ↔ d' = d.materialize positions) ∧
      (d.materialize positions).materialize positions = d.materialize positions := by
  refine ⟨fun d' => ⟨fun h => ?_, ?_⟩, d.materialize_materialize positions⟩
  · obtain ⟨kept, hkept, hentries⟩ := h.entries
    rw [Entry.forall₂_kept_iff.1 hkept, ← Entry.materialize_eq_flatMap] at hentries
    cases d'
    cases h.name
    cases hentries
    rfl
  · rintro rfl
    exact ⟨rfl, ⟨_, Entry.forall₂_kept_iff.2 rfl, Entry.materialize_eq_flatMap ..⟩,
      fun _ _ => filter_materialize⟩

end Diagram

end SchemaCanvas
