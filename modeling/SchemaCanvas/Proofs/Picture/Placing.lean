import SchemaCanvas.Picture.Refresh
import SchemaCanvas.Proofs.Registry
import SchemaCanvas.Proofs.Sequence

/-!
# Placing the tables of a selection

A total generator answers every call and places every name that it is asked for (`Generator.Total`);
with it the placing of a selection never fails (`Selection.exists_place`). However the generator is,
a selection that is placed has all its tables at a place, those with a known place at that one
(`Selection.get?_place`), and a picture of tables of the schema shows them where they were placed
(`Picture.positions_draw`).
-/

namespace SchemaCanvas

variable {σ : Type}

/-- The generator answers every call, with a place for each name that it is asked for. -/
def Generator.Total (g : Generator σ) : Prop :=
  ∀ existing names s, ∃ answer t, g existing names s = .ok answer t ∧
    ∀ name ∈ names, name ∈ answer.keys

/-! ## The answer of a generator -/

/-- What `placeAll` answers: nothing for no names, and else the places that the generator gives to
the names. -/
theorem Generator.placeAll_eq_ok {g : Generator σ} {existing answer : Positions}
    {names : List String} {s t : σ} (h : g.placeAll existing names s = .ok answer t) :
    (names = [] ∧ answer = ∅ ∧ t = s) ∨
      (names ≠ [] ∧ ∃ given : Positions, g existing names s = .ok given t ∧
        (∀ name ∈ names, name ∈ given.keys) ∧
        answer
          = Registry.ofList (names.filterMap fun name => (given.get? name).map (name, ·))) := by
  unfold Generator.placeAll at h
  by_cases hn : names = []
  · rw [if_pos hn] at h
    cases h
    exact .inl ⟨hn, rfl, rfl⟩
  · rw [if_neg hn] at h
    obtain ⟨given, u, hg, h⟩ := bind_eq_ok.1 h
    split at h
    · next hm =>
      cases h
      refine .inr ⟨hn, given, hg, fun name hname => ?_, rfl⟩
      have := List.filter_eq_nil_iff.1 hm name hname
      exact Registry.contains_iff.1 (by simpa using this)
    · cases h

/-- The answer holds the names asked for, each at the place that the generator gives to it. -/
theorem Generator.mem_keys_placeAll {g : Generator σ} {existing answer : Positions}
    {names : List String} {s t : σ} (h : g.placeAll existing names s = .ok answer t)
    (name : String) : name ∈ answer.keys ↔ name ∈ names := by
  rcases Generator.placeAll_eq_ok h with ⟨rfl, rfl, -⟩ | ⟨-, given, -, hk, rfl⟩
  · simp
  · rw [Registry.mem_keys_ofList]
    constructor
    · intro hm
      obtain ⟨item, hi, rfl⟩ := List.mem_map.1 hm
      obtain ⟨n, hn, he⟩ := List.mem_filterMap.1 hi
      obtain ⟨p, -, rfl⟩ := Option.map_eq_some_iff.1 he
      exact hn
    · intro hn
      obtain ⟨p, hp⟩ := Registry.exists_get? (hk name hn)
      exact List.mem_map.2 ⟨(name, p), List.mem_filterMap.2 ⟨name, hn, by simp [hp]⟩, rfl⟩

/-- A place in the answer is the one that the generator gives to a name asked for. -/
theorem Generator.exists_of_get?_placeAll {g : Generator σ} {existing answer : Positions}
    {names : List String} {s t : σ} (h : g.placeAll existing names s = .ok answer t) {name : String}
    {p : Position} (hp : answer.get? name = some p) :
    name ∈ names ∧ ∃ given : Positions, g existing names s = .ok given t ∧
      given.get? name = some p := by
  rcases Generator.placeAll_eq_ok h with ⟨-, rfl, -⟩ | ⟨-, given, hgiven, -, rfl⟩
  · cases hp
  · rw [Registry.get?_ofList] at hp
    obtain ⟨n, hn, hitem⟩ := List.mem_filterMap.1 (List.mem_reverse.1 (Registry.mem_of_lookup hp))
    obtain ⟨place, hplace, he⟩ := Option.map_eq_some_iff.1 hitem
    cases he
    exact ⟨hn, given, hgiven, hplace⟩

/-- A total generator places whatever it is asked for. -/
theorem Generator.Total.exists_placeAll {g : Generator σ} (hg : g.Total) (existing : Positions)
    (names : List String) (s : σ) : ∃ answer t, g.placeAll existing names s = .ok answer t := by
  unfold Generator.placeAll
  by_cases hn : names = []
  · rw [if_pos hn]
    exact ⟨∅, s, rfl⟩
  · rw [if_neg hn]
    obtain ⟨given, t, he, hk⟩ := hg existing names s
    rw [bind_of_ok he]
    have hm : names.filter (fun name => !given.contains name) = [] :=
      List.filter_eq_nil_iff.2 fun name hname => by simp [Registry.contains_iff.2 (hk name hname)]
    rw [if_pos hm]
    exact ⟨_, t, rfl⟩

/-- A generator that puts every table at one place. -/
def Generator.constant (p : Position) : Generator Unit :=
  fun _ names => pure (Registry.ofList (names.map fun name => (name, p)))

/-- A generator that puts every table at one place is total. -/
theorem Generator.total_constant (p : Position) : (Generator.constant p).Total := by
  intro existing names s
  refine ⟨_, s, rfl, fun name hn => ?_⟩
  rw [Registry.mem_keys_ofList]
  simpa using hn

/-- A generator that puts every table at one place gives no other. -/
theorem Generator.eq_of_constant {p q : Position} {existing answer : Positions}
    {names : List String} {s t : Unit} (h : Generator.constant p existing names s = .ok answer t)
    {name : String} (hq : answer.get? name = some q) : q = p := by
  obtain ⟨rfl, -⟩ := EStateM.Result.ok.inj h
  rw [Registry.get?_ofList] at hq
  obtain ⟨m, -, hm⟩ := List.mem_map.1 (List.mem_reverse.1 (Registry.mem_of_lookup hq))
  exact (Prod.mk.inj hm).2.symm

/-- A generator that puts every table at one place gives no other when its answer is checked. -/
theorem Generator.eq_of_placeAll_constant {p q : Position} {existing answer : Positions}
    {names : List String} {s t : Unit}
    (h : (Generator.constant p).placeAll existing names s = .ok answer t) {name : String}
    (hq : answer.get? name = some q) : q = p := by
  obtain ⟨-, given, hgiven, hplace⟩ := Generator.exists_of_get?_placeAll h hq
  exact Generator.eq_of_constant hgiven hplace

/-! ## The places of a selection -/

/-- The tables without a place are those that are selected and have none. -/
theorem Selection.mem_unplaced {s : Selection} {table : String} :
    table ∈ s.unplaced ↔ s.get? table = some none := by
  rw [Registry.get?_eq_some, Selection.unplaced, List.mem_map]
  constructor
  · rintro ⟨⟨name, place⟩, hm, rfl⟩
    obtain ⟨hm, hp⟩ := List.mem_filter.1 hm
    obtain rfl : place = none := by simpa using hp
    exact hm
  · exact fun hm => ⟨(table, none), List.mem_filter.2 ⟨hm, rfl⟩, rfl⟩

/-- Placing a selection asks the generator for the tables without a place, and completes the
selection with its answer. -/
theorem Selection.place_eq_ok {sel : Selection} {g : Generator σ} {positions : Positions}
    {s t : σ} :
    sel.place g s = .ok positions t ↔
      ∃ more, g.placeAll sel.placed sel.unplaced s = .ok more t ∧
        positions = sel.complete more := by
  unfold Selection.place
  rw [bind_eq_ok]
  constructor
  · rintro ⟨more, u, hm, h⟩
    cases h
    exact ⟨more, hm, rfl⟩
  · rintro ⟨more, hm, rfl⟩
    exact ⟨more, t, hm, rfl⟩

/-- A total generator can place every selection. -/
theorem Selection.exists_place (sel : Selection) {g : Generator σ} (hg : g.Total) (s : σ) :
    ∃ positions t, sel.place g s = .ok positions t := by
  obtain ⟨more, t, hm⟩ := hg.exists_placeAll sel.placed sel.unplaced s
  exact ⟨_, t, Selection.place_eq_ok.2 ⟨more, hm, rfl⟩⟩

/-- A selection whose tables all have a place is placed without the generator. -/
theorem Selection.place_of_placed {sel : Selection} (h : ∀ table, sel.get? table ≠ some none)
    (g : Generator σ) (s : σ) : sel.place g s = .ok (sel.complete ∅) s := by
  have hnone : sel.unplaced = [] := List.eq_nil_iff_forall_not_mem.2 fun table ht =>
    h table (Selection.mem_unplaced.1 ht)
  refine Selection.place_eq_ok.2 ⟨∅, ?_, rfl⟩
  rw [hnone, Generator.placeAll, if_pos rfl]
  rfl

/-- In a completed selection a table has its own place, or else the one that the answer gives to
it. -/
theorem Selection.get?_complete (sel : Selection) (more : Positions) (table : String) :
    (sel.complete more).get? table
      = (sel.get? table).bind fun place => place.or (more.get? table) :=
  Registry.get?_filterMap ..

/-- A table whose place is known stays there. -/
theorem Selection.get?_place {sel : Selection} {g : Generator σ} {positions : Positions} {s t : σ}
    (h : sel.place g s = .ok positions t) {table : String} {p : Position}
    (hp : sel.get? table = some (some p)) : positions.get? table = some p := by
  obtain ⟨more, -, rfl⟩ := Selection.place_eq_ok.1 h
  rw [Selection.get?_complete, hp]
  rfl

/-- Exactly the tables of the selection are placed. -/
theorem Selection.mem_keys_place {sel : Selection} {g : Generator σ} {positions : Positions}
    {s t : σ} (h : sel.place g s = .ok positions t) (table : String) :
    table ∈ positions.keys ↔ table ∈ sel.keys := by
  obtain ⟨more, hm, rfl⟩ := Selection.place_eq_ok.1 h
  rw [Registry.mem_keys_iff, Registry.mem_keys_iff]
  simp only [Selection.get?_complete, Option.bind_eq_some_iff]
  constructor
  · rintro ⟨_, place, hs, _⟩
    exact ⟨place, hs⟩
  · rintro ⟨place, hs⟩
    cases place with
    | some p => exact ⟨p, some p, hs, rfl⟩
    | none =>
      have hk := (Generator.mem_keys_placeAll hm table).2 (Selection.mem_unplaced.2 hs)
      obtain ⟨p, hp⟩ := Registry.exists_get? hk
      exact ⟨p, none, hs, hp⟩

/-! ## The picture of placed tables -/

/-- The nodes of a picture of tables of the schema are at the places that were drawn, in the same
order. -/
theorem Picture.map_nodes_draw {schema : Schema} {positions : Positions}
    (h : ∀ table ∈ positions.keys, schema.contains table = true) :
    (Picture.draw schema positions).nodes.map (fun node => (node.name, node.position))
      = positions.items := by
  have hitems : ∀ items : List (String × Position),
      (∀ item ∈ items, schema.contains item.1 = true) →
      (items.filterMap fun item => (schema.tables.get? item.1).map fun table =>
        (⟨item.1, item.2, table⟩ : Node)).map (fun node => (node.name, node.position)) = items := by
    intro items hall
    induction items with
    | nil => rfl
    | cons item items ih =>
      have hc := hall item (List.mem_cons_self ..)
      obtain ⟨table, ht⟩ := Registry.exists_get? (Registry.contains_iff.1 hc)
      rw [List.filterMap_cons_some (by rw [ht]; rfl), List.map_cons,
        ih fun i hi => hall i (List.mem_cons_of_mem _ hi)]
  exact hitems _ fun item hi => h item.1 (List.mem_map.2 ⟨item, hi, rfl⟩)

/-- A picture of tables of the schema has them where they were placed, in the same order. -/
theorem Picture.positions_draw {schema : Schema} {positions : Positions}
    (h : ∀ table ∈ positions.keys, schema.contains table = true) :
    (Picture.draw schema positions).positions = positions := by
  rw [Picture.positions, Picture.map_nodes_draw h, Registry.ofList_items]

end SchemaCanvas
