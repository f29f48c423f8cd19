import Mathlib.Data.List.Nodup
import SchemaCanvas.Placement.Circular
import SchemaCanvas.Proofs.Registry
import SchemaCanvas.Proofs.Sequence

/-!
# The circular layout and the order of its tables

The circular layout sees the tables that it places through two views only: their schemas in order
(`Circular.schemasOf`) and the tables of each schema in order (`Circular.membersOf`). Both are the
same for every order of the tables. The circles are made one after another, and all that a circle
hands on is where the next one starts (`Circular.turn`), so circles of later schemas leave the ones
of earlier schemas where they are (`Circular.get?_circles_append`).
-/

namespace SchemaCanvas.Circular

variable {names names' : List String}

/-! ## Names in order -/

/-- Sorting keeps every name as often as it is there. -/
theorem sorted_perm (names : List String) : (sorted names).Perm names :=
  List.mergeSort_perm ..

/-- Sorting keeps the names. -/
theorem mem_sorted {name : String} : name ∈ sorted names ↔ name ∈ names :=
  (sorted_perm names).mem_iff

/-- Of two sorted names the first is not the greater one. -/
theorem pairwise_sorted (names : List String) : (sorted names).Pairwise (· ≤ ·) := by
  have h := @List.pairwise_mergeSort String (fun a b => decide (a ≤ b))
    (by simpa using fun a b c => String.le_trans) (by simpa using String.le_total) names
  exact h.imp of_decide_eq_true

/-- There is one order of names only. -/
theorem sorted_eq {ordered : List String} (h : names.Perm ordered)
    (ho : ordered.Pairwise (· ≤ ·)) : sorted names = ordered :=
  List.Perm.eq_of_pairwise (fun _ _ _ _ => String.le_antisymm) (pairwise_sorted names) ho
    ((sorted_perm names).trans h)

/-- The order before sorting does not matter. -/
theorem sorted_congr (h : names.Perm names') : sorted names = sorted names' :=
  sorted_eq (h.trans (sorted_perm names').symm) (pairwise_sorted names')

/-- The names up to one of them come first. -/
theorem sorted_cut (names : List String) (last : String) :
    sorted names = sorted (names.filter (· ≤ last)) ++ sorted (names.filter (last < ·)) := by
  refine sorted_eq ?_ (List.pairwise_append.2 ⟨pairwise_sorted _, pairwise_sorted _, ?_⟩)
  · have hlater : names.filter (last < ·) = names.filter fun name => !decide (name ≤ last) :=
      List.filter_congr fun name _ => by rw [← decide_not, decide_eq_decide, String.not_le]
    rw [hlater]
    exact (List.filter_append_perm _ names).symm.trans
      ((sorted_perm _).append (sorted_perm _)).symm
  · intro a ha b hb
    have ha := of_decide_eq_true (List.mem_filter.1 (mem_sorted.1 ha)).2
    have hb := of_decide_eq_true (List.mem_filter.1 (mem_sorted.1 hb)).2
    exact String.le_trans ha ((String.le_total last b).resolve_right (String.not_le.2 hb))

/-! ## Schemas and their tables -/

/-- The schemas of tables, in order. -/
def schemasOf (names : List String) : List String :=
  sorted (distinct (names.map schemaOf))

/-- The tables of a schema, in order. -/
def membersOf (names : List String) (schema : String) : List String :=
  sorted (names.filter fun name => schemaOf name = schema)

/-- The schema of every table is among the schemas. -/
theorem mem_schemasOf {name : String} (h : name ∈ names) : schemaOf name ∈ schemasOf names :=
  mem_sorted.2 (mem_distinct.2 (List.mem_map_of_mem h))

/-- The tables of a schema are those whose names begin with it. -/
theorem mem_membersOf {name schema : String} :
    name ∈ membersOf names schema ↔ name ∈ names ∧ schemaOf name = schema := by
  rw [membersOf, mem_sorted, List.mem_filter, decide_eq_true_eq]

/-- The schemas do not depend on the order of the tables. -/
theorem schemasOf_congr (h : names.Perm names') : schemasOf names = schemasOf names' :=
  sorted_congr (distinct_perm (h.map schemaOf))

/-- The tables of a schema, in order, do not depend on the order of all tables. -/
theorem membersOf_congr (h : names.Perm names') (schema : String) :
    membersOf names schema = membersOf names' schema :=
  sorted_congr (h.filter _)

section Added

variable {longer added : List String} {last : String}

/-- Tables of later schemas leave the tables of a schema. -/
theorem membersOf_added (h : longer.Perm (names ++ added))
    (ha : ∀ name ∈ added, last < schemaOf name)
    {schema : String} (hs : schema ≤ last) : membersOf names schema = membersOf longer schema := by
  have hnone : added.filter (fun name => schemaOf name = schema) = [] := by
    refine List.filter_eq_nil_iff.2 fun name hname heq => ?_
    exact String.not_le.2 (ha name hname) (of_decide_eq_true heq ▸ hs)
  rw [membersOf_congr h, membersOf, membersOf, List.filter_append, hnone, List.append_nil]

/-- Tables of later schemas leave the schemas before them, which come first. -/
theorem schemasOf_added (h : longer.Perm (names ++ added))
    (ha : ∀ name ∈ added, last < schemaOf name) :
    ∃ early late late', schemasOf names = early ++ late ∧ schemasOf longer = early ++ late' ∧
      (∀ schema ∈ early, schema ≤ last) ∧ (∀ schema ∈ late, last < schema) ∧
        ∀ schema ∈ late', last < schema := by
  have hearly : ((distinct (names.map schemaOf)).filter (· ≤ last)).Perm
      ((distinct (longer.map schemaOf)).filter (· ≤ last)) := by
    refine (List.perm_ext_iff_of_nodup ((nodup_distinct _).filter _)
      ((nodup_distinct _).filter _)).2 fun schema => ?_
    simp only [List.mem_filter, mem_distinct, (h.map schemaOf).mem_iff, List.map_append,
      List.mem_append, decide_eq_true_eq]
    refine and_congr_left fun hs => (or_iff_left fun hadded => ?_).symm
    obtain ⟨name, hname, rfl⟩ := List.mem_map.1 hadded
    exact String.not_le.2 (ha name hname) hs
  have hside : ∀ {p : String → Prop} [DecidablePred p] {schemas : List String},
      ∀ schema ∈ sorted (schemas.filter (p ·)), p schema := fun schema hs =>
    of_decide_eq_true (List.mem_filter.1 (mem_sorted.1 hs)).2
  have hlonger : schemasOf longer
      = sorted ((distinct (names.map schemaOf)).filter (· ≤ last))
        ++ sorted ((distinct (longer.map schemaOf)).filter (last < ·)) := by
    rw [sorted_congr hearly]
    exact sorted_cut _ last
  exact ⟨_, _, _, sorted_cut _ last, hlonger, hside, hside, hside⟩

end Added

/-! ## One circle after another -/

/-- The circle of one schema, given its tables in order, and where the next circle starts. -/
def turn (o : Options) (top left : Number) (members : List String) :
    Except LayoutError (Positions × Number) := do
  let radius := o.radiusFor members.length
  let centreX ← LayoutError.ofNumber do (← left.add radius).add margin
  let centreY ← LayoutError.ofNumber do (← top.add radius).add margin
  let circle ← LayoutError.ofNumber (onCircle centreX centreY radius members.length ∅ 0 members)
  let right ← LayoutError.ofNumber (centreX.add radius)
  let spacing ← o.spacing.elim (.error .missingOption) .ok
  let left ← LayoutError.ofNumber (right.add spacing)
  return (circle, left)

variable {o : Options} {top left : Number} {placed : Positions} {schemas : List String}

/-- The circle of the first schema comes first; those of the others start beside it. -/
theorem circles_cons (schema : String) :
    circles o top names left placed (schema :: schemas)
      = turn o top left (membersOf names schema) >>= fun c =>
          circles o top names c.2 (c.1.items.foldl (fun p item => p.insert item.1 item.2) placed)
            schemas := by
  have hlength : (membersOf names schema).length
      = (names.filter fun name => schemaOf name = schema).length :=
    (sorted_perm _).length_eq
  rw [circles, turn, hlength]
  simp only [bind_assoc, pure_bind]
  rfl

/-- Circles depend on the tables of each of their schemas only. -/
theorem circles_congr (h : ∀ schema ∈ schemas, membersOf names schema = membersOf names' schema) :
    circles o top names left placed schemas = circles o top names' left placed schemas := by
  induction schemas generalizing left placed with
  | nil => rfl
  | cons schema schemas ih =>
    rw [circles_cons, circles_cons, h schema List.mem_cons_self]
    exact bind_congr fun c => ih fun s hs => h s (List.mem_cons_of_mem _ hs)

/-- The tables that go on a circle join those that are placed already. -/
theorem mem_keys_onCircle {centreX centreY radius : Number} {count i : Nat} {circle : Positions}
    (h : onCircle centreX centreY radius count placed i names = .ok circle) {key : String} :
    key ∈ circle.keys ↔ key ∈ names ∨ key ∈ placed.keys := by
  induction names generalizing placed i with
  | nil =>
    rw [← Except.ok.inj h]
    simp
  | cons name names ih =>
    obtain ⟨place, -, h⟩ := except_bind_eq_ok.1 h
    rw [ih h, Registry.mem_keys_insert, List.mem_cons, or_left_comm, or_assoc]

/-- A number is computed for a place exactly if it can be computed. -/
theorem ofNumber_eq_ok {α : Type} {x : Except NumberError α} {a : α} :
    LayoutError.ofNumber x = .ok a ↔ x = .ok a := by
  cases x <;> simp [LayoutError.ofNumber]

/-- A circle holds the tables that it is for. -/
theorem mem_keys_turn {members : List String} {c : Positions × Number}
    (h : turn o top left members = .ok c) {key : String} : key ∈ c.1.keys ↔ key ∈ members := by
  simp only [turn, except_bind_eq_ok] at h
  obtain ⟨centreX, -, centreY, -, circle, hcircle, right, -, spacing, -, left', -, hc⟩ := h
  obtain rfl := Except.ok.inj hc
  rw [mem_keys_onCircle (ofNumber_eq_ok.1 hcircle), Registry.keys_empty]
  simp

/-- The circles of schemas leave the tables of other schemas. -/
theorem get?_circles {placed' : Positions}
    (h : circles o top names left placed schemas = .ok placed')
    {key : String} (hkey : schemaOf key ∉ schemas) : placed'.get? key = placed.get? key := by
  induction schemas generalizing left placed with
  | nil => rw [Except.ok.inj h]
  | cons schema schemas ih =>
    rw [circles_cons] at h
    obtain ⟨c, hc, h⟩ := except_bind_eq_ok.1 h
    have hnone : c.1.get? key = none := by
      rw [Registry.get?_eq_none, mem_keys_turn hc, mem_membersOf]
      exact fun hmem => hkey (hmem.2 ▸ List.mem_cons_self)
    rw [ih h fun hmem => hkey (List.mem_cons_of_mem _ hmem), Registry.get?_foldl_items, hnone,
      Option.none_or]

/-- The circles of schemas hold the tables of these schemas. -/
theorem mem_keys_circles {placed' : Positions}
    (h : circles o top names left placed schemas = .ok placed') {key : String} :
    key ∈ placed'.keys ↔ key ∈ placed.keys ∨ key ∈ names ∧ schemaOf key ∈ schemas := by
  induction schemas generalizing left placed with
  | nil =>
    rw [← Except.ok.inj h]
    simp
  | cons schema schemas ih =>
    rw [circles_cons] at h
    obtain ⟨c, hc, h⟩ := except_bind_eq_ok.1 h
    have hkeys : key ∈ (c.1.items.foldl (fun p item => p.insert item.1 item.2) placed).keys ↔
        key ∈ membersOf names schema ∨ key ∈ placed.keys := by
      rw [← mem_keys_turn hc, ← Registry.isSome_get?, Registry.get?_foldl_items, Option.isSome_or,
        Bool.or_eq_true, Registry.isSome_get?, Registry.isSome_get?]
    rw [ih h, hkeys, mem_membersOf, List.mem_cons, or_comm (b := key ∈ placed.keys), or_assoc,
      ← and_or_left]

/-- Two runs that have the circles of the same schemas first place the tables of these schemas
alike. -/
theorem get?_circles_append {early late late' : List String} {placed₁ placed₂ : Positions}
    (hmembers : ∀ schema ∈ early, membersOf names schema = membersOf names' schema)
    (h : circles o top names left placed (early ++ late) = .ok placed₁)
    (h' : circles o top names' left placed (early ++ late') = .ok placed₂) {key : String}
    (hkey : schemaOf key ∉ late) (hkey' : schemaOf key ∉ late') :
    placed₁.get? key = placed₂.get? key := by
  induction early generalizing left placed with
  | nil => rw [get?_circles h hkey, get?_circles h' hkey']
  | cons schema early ih =>
    rw [List.cons_append, circles_cons] at h h'
    obtain ⟨c, hc, h⟩ := except_bind_eq_ok.1 h
    obtain ⟨c', hc', h'⟩ := except_bind_eq_ok.1 h'
    rw [← hmembers schema List.mem_cons_self, hc] at hc'
    obtain rfl := Except.ok.inj hc'
    exact ih (fun s hs => hmembers s (List.mem_cons_of_mem _ hs)) h h'

/-! ## The whole layout -/

variable {existing : Positions}

/-- Tables are placed in circles, schema by schema, to the right of what is there. -/
theorem place_eq (h : names ≠ []) (o : Options) (existing : Positions) :
    place o existing names = rightEdge existing >>= fun left =>
      circles o (topEdge existing) names left ∅ (schemasOf names) := by
  cases names with
  | nil => exact absurd rfl h
  | cons name names => rfl

/-- Exactly the tables that are asked for get a place. -/
theorem mem_keys_place {placed : Positions} (h : place o existing names = .ok placed)
    {key : String} : key ∈ placed.keys ↔ key ∈ names := by
  by_cases hnames : names = []
  · subst hnames
    rw [← Except.ok.inj h, Registry.keys_empty]
  · rw [place_eq hnames] at h
    obtain ⟨left, -, h⟩ := except_bind_eq_ok.1 h
    rw [mem_keys_circles h, Registry.keys_empty]
    simpa using mem_schemasOf

/-- The places do not depend on the order in which the tables are asked for. -/
theorem place_congr (h : names.Perm names') (o : Options) (existing : Positions) :
    place o existing names = place o existing names' := by
  by_cases hnames : names = []
  · subst hnames
    rw [List.nil_perm.1 h]
  · have hnames' : names' ≠ [] := fun hnil => hnames (List.perm_nil.1 (hnil ▸ h))
    rw [place_eq hnames, place_eq hnames', schemasOf_congr h]
    exact bind_congr fun left => circles_congr fun schema _ => membersOf_congr h schema

/-- Tables of later schemas that are asked for as well do not move the tables of earlier ones. -/
theorem get?_place_added {longer added : List String} {last name : String}
    {placed placed' : Positions} (hl : longer.Perm (names ++ added))
    (ha : ∀ name ∈ added, last < schemaOf name) (h : place o existing names = .ok placed)
    (h' : place o existing longer = .ok placed') (hname : name ∈ names)
    (hschema : schemaOf name ≤ last) : placed'.get? name = placed.get? name := by
  have hnames : names ≠ [] := List.ne_nil_of_mem hname
  have hlonger : longer ≠ [] :=
    List.ne_nil_of_mem (hl.mem_iff.2 (List.mem_append_left added hname))
  rw [place_eq hnames] at h
  rw [place_eq hlonger] at h'
  obtain ⟨left, hleft, h⟩ := except_bind_eq_ok.1 h
  obtain ⟨left', hleft', h'⟩ := except_bind_eq_ok.1 h'
  rw [hleft] at hleft'
  obtain rfl := Except.ok.inj hleft'
  obtain ⟨early, late, late', hearly, hearly', hbefore, hlate, hlate'⟩ := schemasOf_added hl ha
  rw [hearly] at h
  rw [hearly'] at h'
  exact (get?_circles_append (fun schema hs => membersOf_added hl ha (hbefore schema hs)) h h'
    (fun hmem => String.not_le.2 (hlate _ hmem) hschema)
    fun hmem => String.not_le.2 (hlate' _ hmem) hschema).symm

/-- **The circular layout depends on the set of tables only.** -/
theorem place_unordered (o : Options) (existing : Positions) (hn : names.Nodup) :
    (∀ placed, place o existing names = .ok placed → placed.keys.Perm names) ∧
      (∀ names', names.Perm names' → place o existing names = place o existing names') ∧
      ∀ longer added last placed placed', longer.Perm (names ++ added) →
        (∀ name ∈ added, last < schemaOf name) → place o existing names = .ok placed →
        place o existing longer = .ok placed' → ∀ name ∈ names, schemaOf name ≤ last →
          ∃ position, placed.get? name = some position ∧ placed'.get? name = some position := by
  refine ⟨fun placed h => ?_, fun names' h => place_congr h o existing, ?_⟩
  · exact (List.perm_ext_iff_of_nodup placed.nodup_keys hn).2 fun name => mem_keys_place h
  · intro longer added last placed placed' hl ha h h' name hname hschema
    obtain ⟨position, hposition⟩ := Registry.exists_get? ((mem_keys_place h).2 hname)
    exact ⟨position, hposition, (get?_place_added hl ha h h' hname hschema).trans hposition⟩

/-- The places of three tables of two schemas. -/
def threePlaces : Positions :=
  .ofList [("a.x", ⟨.whole 250, .whole 50⟩), ("a.y", ⟨.whole 250, .whole 450⟩),
    ("b.t", ⟨.whole 1300, .whole 50⟩)]

/-- The same tables in another order have the same places, and also with a table of a third
schema. -/
theorem place_threePlaces :
    ["b.t", "a.y", "a.x"].Nodup ∧
      place .standard ∅ ["b.t", "a.y", "a.x"] = .ok threePlaces ∧
      threePlaces.keys.Perm ["b.t", "a.y", "a.x"] ∧
      place .standard ∅ ["a.x", "b.t", "a.y"] = .ok threePlaces ∧
      ∃ placed', place .standard ∅ ["c.z", "b.t", "a.y", "a.x"] = .ok placed' ∧
        ∀ name ∈ ["b.t", "a.y", "a.x"], schemaOf name ≤ "b" → ∃ position,
          threePlaces.get? name = some position ∧ placed'.get? name = some position := by
  have hn : ["b.t", "a.y", "a.x"].Nodup := by decide
  have hplace : place .standard ∅ ["b.t", "a.y", "a.x"] = .ok threePlaces := by
    have hschemas : schemasOf ["b.t", "a.y", "a.x"] = ["a", "b"] :=
      sorted_eq (by decide) (by decide)
    have hmembers : membersOf ["b.t", "a.y", "a.x"] "a" = ["a.x", "a.y"] :=
      sorted_eq (by decide) (by decide)
    rw [place_eq (by decide), hschemas]
    simp only [circles_cons, hmembers]
    decide +kernel
  obtain ⟨hkeys, hperm, hadded⟩ := place_unordered .standard ∅ hn
  refine ⟨hn, hplace, hkeys _ hplace, ?_, ?_⟩
  · rw [← hperm ["a.x", "b.t", "a.y"] (by decide), hplace]
  · have hlonger : place .standard ∅ ["c.z", "b.t", "a.y", "a.x"]
        = .ok (threePlaces.insert "c.z" ⟨.whole 2350, .whole 50⟩) := by
      have hschemas : schemasOf ["c.z", "b.t", "a.y", "a.x"] = ["a", "b", "c"] :=
        sorted_eq (by decide) (by decide)
      have hmembers : membersOf ["c.z", "b.t", "a.y", "a.x"] "a" = ["a.x", "a.y"] :=
        sorted_eq (by decide) (by decide)
      rw [place_eq (by decide), hschemas]
      simp only [circles_cons, hmembers]
      decide +kernel
    exact ⟨_, hlonger, hadded _ ["c.z"] "b" _ _ (by decide) (by decide) hplace hlonger⟩

end SchemaCanvas.Circular
