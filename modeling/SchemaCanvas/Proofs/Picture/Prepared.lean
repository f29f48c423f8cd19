import SchemaCanvas.File.Refreshed
import SchemaCanvas.Proofs.Picture.Agreeing
import SchemaCanvas.Proofs.Picture.Committed
import SchemaCanvas.Proofs.Picture.Materialized
import SchemaCanvas.Proofs.Picture.Stateless

/-!
# What preparing a save leaves alone

Diagrams are prepared for a save in two passes over all of them: the live positions are written into
the diagram on the canvas, and entries without a place are filled in, in every diagram.
`Entry.Prepared` says what the two passes make of one entry, `Diagram.Prepared` what they make of
the diagram on the canvas. Every other diagram keeps the list of its entries, and what it becomes
does not depend on the diagrams beside it as long as the generator computes from its arguments alone
(`DiagramSet.prepare_leaves_rest`).
-/

namespace SchemaCanvas

variable {σ : Type}

/-- What becomes of an entry when its diagram is prepared with positions. -/
inductive Entry.Prepared (positions : Positions) : Entry → Entry → Prop
  | wildcard (schema : String) : Prepared positions (.wildcard schema) (.wildcard schema)
  /-- A table of the positions moves to its position. -/
  | moved {name : String} {x y : Option Number} {p : Position}
    (h : positions.get? name = some p) : Prepared positions (.table name x y) (.placed name p)
  /-- Any other table with coordinates stays where it is. -/
  | stays {name : String} (h : name ∉ positions.keys) (p : Position) :
    Prepared positions (.placed name p) (.placed name p)
  /-- A table that lacks a coordinate may be given a place. -/
  | filled {name : String} {x y : Option Number} (h : name ∉ positions.keys)
    (hxy : (Entry.table name x y).position? = none) (p : Position) :
    Prepared positions (.table name x y) (.placed name p)
  | unfilled {name : String} {x y : Option Number} (h : name ∉ positions.keys)
    (hxy : (Entry.table name x y).position? = none) :
    Prepared positions (.table name x y) (.table name x y)

/-- The entry with its coordinates forgotten: what it names. -/
def Entry.bare : Entry → Entry
  | .wildcard schema => .wildcard schema
  | .table name _ _ => .table name none none

/-- Whether an entry is of a table that the positions name and the diagram does not. -/
def Diagram.lacks (d : Diagram) (positions : Positions) (e : Entry) : Bool :=
  e.tableName?.any fun name => decide (name ∈ positions.keys ∧ name ∉ d.tableNames)

/-- The second diagram is the first one prepared with positions. -/
structure Diagram.Prepared (d : Diagram) (positions : Positions) (d' : Diagram) : Prop where
  name : d'.name = d.name
  /-- All entries stay, in their order; the only new ones are of tables that had none. -/
  entries : List.Forall₂ (Entry.Prepared positions) d.entries
    (d'.entries.filter fun e => !d.lacks positions e)
  /-- Every table of the positions has an entry. -/
  listed : ∀ name ∈ positions.keys, name ∈ d'.tableNames
  /-- Every entry of such a table carries its position. -/
  placed : ∀ e ∈ d'.entries, ∀ name p, e.tableName? = some name → positions.get? name = some p →
    e = .placed name p

/-! ## Entries -/

namespace Entry

/-- Without positions an entry stays where it is. -/
theorem moveTo_empty (e : Entry) : e.moveTo ∅ = e := by
  cases e <;> rfl

/-- Without places nothing is filled in. -/
theorem fill_empty (e : Entry) : e.fill ∅ = e := by
  unfold fill
  split
  · rfl
  · exact moveTo_empty e

/-- An entry with both coordinates is not filled in. -/
theorem fill_placed (positions : Positions) (name : String) (p : Position) :
    (placed name p).fill positions = .placed name p := rfl

/-- The two passes over an entry, whatever places the second one fills in. -/
theorem prepared_fill_moveTo (positions places : Positions) (e : Entry) :
    e.Prepared positions ((e.moveTo positions).fill places) := by
  cases e with
  | wildcard schema => exact .wildcard schema
  | table name x y =>
    cases hp : positions.get? name with
    | some p =>
      rw [moveTo_of_get? hp rfl, fill_placed]
      exact .moved hp
    | none =>
      have hname : name ∉ positions.keys := Registry.get?_eq_none.1 hp
      have hmove : (table name x y).moveTo positions = .table name x y := by
        simp only [moveTo, hp]
      rw [hmove]
      cases hxy : (table name x y).position? with
      | some q =>
        obtain ⟨a, b, rfl, rfl⟩ : ∃ a b, x = some a ∧ y = some b := by
          cases x <;> cases y <;> simp [position?] at hxy ⊢
        exact .stays hname ⟨a, b⟩
      | none =>
        have hfill : (table name x y).fill places = (table name x y).moveTo places := by
          simp [fill, hxy]
        rw [hfill]
        cases hq : places.get? name with
        | some q =>
          rw [moveTo_of_get? hq rfl]
          exact .filled hname hxy q
        | none =>
          have hstay : (table name x y).moveTo places = .table name x y := by
            simp only [moveTo, hq]
          rw [hstay]
          exact .unfilled hname hxy

/-- Filling in its place is one way to prepare an entry without positions. -/
theorem prepared_fill (places : Positions) (e : Entry) : e.Prepared ∅ (e.fill places) := by
  have h := prepared_fill_moveTo ∅ places e
  rwa [moveTo_empty] at h

/-- Preparing an entry changes its coordinates only. -/
theorem Prepared.bare_eq {positions : Positions} {e e' : Entry} (h : e.Prepared positions e') :
    e'.bare = e.bare := by
  cases h <;> rfl

/-- Of the entries after materializing, those that are kept and no pending item's are the old ones
in their order. -/
theorem filter_materialize_eq_map {positions : Positions} {keep : Entry → Bool} {es : List Entry}
    (hes : ∀ e ∈ es, keep (e.moveTo positions) = true) {pending : List (String × Position)}
    (hpending : ∀ item ∈ pending, keep (.placed item.1 item.2) = false) :
    (materialize positions pending es).filter keep = es.map (moveTo positions) := by
  have hadded : ∀ items ⊆ pending,
      (items.map fun item => placed item.1 item.2).filter keep = [] := by
    intro items hitems
    refine List.filter_eq_nil_iff.2 fun e he => ?_
    obtain ⟨item, hi, rfl⟩ := List.mem_map.1 he
    simp [hpending item (hitems hi)]
  induction es generalizing pending with
  | nil => exact hadded pending (List.Subset.refl pending)
  | cons e es ih =>
    have hmore : ∀ item ∈ pending.filter fun item => !decide (e = .wildcard (schemaOf item.1)),
        keep (.placed item.1 item.2) = false :=
      fun item hi => hpending item (List.mem_filter.1 hi).1
    rw [materialize_cons, List.cons_append, List.filter_cons_of_pos (hes e List.mem_cons_self),
      List.filter_append, hadded _ (List.filter_subset_self _),
      ih (fun e' he' => hes e' (List.mem_cons_of_mem _ he')) hmore, List.nil_append, List.map_cons]
    exact fun items hitems => hadded items (List.Subset.trans hitems (List.filter_subset_self _))

end Entry

/-! ## One diagram -/

namespace Diagram

variable {d filled : Diagram} {g : Generator σ} {s t : σ} {positions : Positions}

/-- Filling a diagram in fills every entry in from the same places. -/
theorem exists_fill_eq (h : d.fill g s = .ok filled t) :
    ∃ places, filled = { d with entries := d.entries.map (Entry.fill places) } := by
  rcases fill_eq_ok h with ⟨-, rfl⟩ | ⟨_, _, places, -, -, -, -, rfl⟩
  · refine ⟨∅, ?_⟩
    rw [funext Entry.fill_empty, List.map_id']
  · exact ⟨places, rfl⟩

/-- A diagram that is not on the canvas keeps the list of its entries. -/
theorem prepared_of_fill (h : d.fill g s = .ok filled t) :
    filled.name = d.name ∧ List.Forall₂ (Entry.Prepared ∅) d.entries filled.entries ∧
      filled.entries.map Entry.bare = d.entries.map Entry.bare := by
  obtain ⟨places, rfl⟩ := exists_fill_eq h
  have hbare : ∀ e : Entry, (e.fill places).bare = e.bare := fun e =>
    (Entry.prepared_fill places e).bare_eq
  refine ⟨rfl, ?_, ?_⟩
  · exact List.forall₂_map_right_iff.2 (List.forall₂_same.2 fun e _ => Entry.prepared_fill places e)
  · rw [List.map_map]
    exact List.map_congr_left fun e _ => hbare e

/-- Whether a diagram lacks the table of an entry depends on that table only. -/
theorem lacks_congr {e e' : Entry} (h : e'.tableName? = e.tableName?) :
    d.lacks positions e' = d.lacks positions e := by
  rw [lacks, h, lacks]

/-- The diagram is not lacking what it has. -/
theorem lacks_of_mem {e : Entry} (he : e ∈ d.entries) : d.lacks positions e = false := by
  rw [lacks, Option.any_eq_false]
  intro name hname
  have hmem : name ∈ d.tableNames := List.mem_filterMap.2 ⟨e, he, hname⟩
  simp [hmem]

/-- The diagram lacks the tables that are added to it. -/
theorem lacks_placed {item : String × Position} (hi : item ∈ d.unlisted positions) :
    d.lacks positions (.placed item.1 item.2) = true := by
  obtain ⟨hitem, hname⟩ := List.mem_filter.1 hi
  have hkey : item.1 ∈ positions.keys := List.mem_map_of_mem hitem
  simpa [lacks, Entry.placed, Entry.tableName?, hkey] using hname

/-- The diagram on the canvas is prepared with the live positions. -/
theorem prepared_of_fill_materialize (h : (d.materialize positions).fill g s = .ok filled t) :
    d.Prepared positions filled := by
  obtain ⟨places, rfl⟩ := exists_fill_eq h
  have hwritten : ∀ e ∈ (d.materialize positions).entries, ∀ name p, e.tableName? = some name →
      positions.get? name = some p → e = .placed name p := by
    intro e he name p hname hp
    rcases Entry.mem_materialize.1 he with ⟨e', -, rfl⟩ | ⟨item, hi, rfl⟩
    · rw [Entry.tableName?_moveTo] at hname
      exact Entry.moveTo_of_get? hp hname
    · cases hname
      rw [Registry.get?_eq_some.2 (List.mem_filter.1 hi).1] at hp
      cases hp
      rfl
  have hfilled : ∀ e : Entry, d.lacks positions (e.fill places) = d.lacks positions e := fun e =>
    lacks_congr (Entry.tableName?_fill places e)
  have hold : ∀ e ∈ d.entries, (!d.lacks positions (e.moveTo positions)) = true := by
    intro e he
    rw [lacks_congr (Entry.tableName?_moveTo positions e), lacks_of_mem he]
    rfl
  have hnew : ∀ item ∈ d.unlisted positions, (!d.lacks positions (.placed item.1 item.2)) = false :=
    fun item hi => by rw [lacks_placed hi]; rfl
  refine ⟨rfl, ?_, ?_, ?_⟩
  · have hentries : ((d.materialize positions).entries.map (Entry.fill places)).filter
          (fun e => !d.lacks positions e)
        = d.entries.map fun e => (e.moveTo positions).fill places := by
      rw [List.filter_map]
      simp only [Function.comp_def, hfilled]
      rw [show (d.materialize positions).entries
          = Entry.materialize positions (d.unlisted positions) d.entries from rfl,
        Entry.filter_materialize_eq_map hold hnew, List.map_map]
      rfl
    rw [hentries]
    exact List.forall₂_map_right_iff.2
      (List.forall₂_same.2 fun e _ => Entry.prepared_fill_moveTo positions places e)
  · intro name hname
    obtain ⟨e, he, htable⟩ := List.mem_filterMap.1 (d.mem_tableNames_materialize hname)
    exact List.mem_filterMap.2 ⟨e.fill places, List.mem_map_of_mem he, by simpa using htable⟩
  · intro e he name p hname hp
    obtain ⟨e', he', rfl⟩ := List.mem_map.1 he
    rw [Entry.tableName?_fill] at hname
    rw [hwritten e' he' name p hname hp, Entry.fill_placed]

end Diagram

/-! ## Sets of diagrams -/

namespace DiagramSet

variable {diagrams prepared : DiagramSet} {name : String} {positions : Positions} {g : Generator σ}
  {s t : σ}

/-- What preparing does: the diagram of the name is written, and then all are filled in. -/
theorem prepare_eq_ok (h : diagrams.prepare name positions g s = .ok prepared t) :
    ∃ d, diagrams.get? name = some d ∧
      DiagramSet.fill (diagrams.insert name (d.materialize positions)) g s = .ok prepared t := by
  obtain ⟨committed, u, hcommit, hfill⟩ := bind_eq_ok.1 h
  obtain ⟨d, v, hfind, hrest⟩ := bind_eq_ok.1 hcommit
  obtain ⟨hd, rfl⟩ := find_eq_ok.1 hfind
  cases hrest
  exact ⟨d, hd, hfill⟩

/-- A diagram that is not on the canvas is filled in as it is. -/
theorem exists_fill_of_prepare (h : diagrams.prepare name positions g s = .ok prepared t)
    {other : String} (hother : other ≠ name) {d : Diagram} (hd : diagrams.get? other = some d) :
    ∃ d' u v, prepared.get? other = some d' ∧ d.fill g u = .ok d' v := by
  obtain ⟨active, -, hfill⟩ := prepare_eq_ok h
  refine get?_of_fill hfill ?_
  rw [Registry.get?_insert_of_ne hother, hd]

/-- Preparing keeps the diagrams under their names and in their order. -/
theorem keys_of_prepare (h : diagrams.prepare name positions g s = .ok prepared t) :
    prepared.keys = diagrams.keys := by
  obtain ⟨active, hactive, hfill⟩ := prepare_eq_ok h
  rw [keys_of_fill hfill, keys_insert_of_get? hactive]

/-- With a generator that computes from its arguments, a diagram that is not on the canvas becomes
the same in every set of diagrams. -/
theorem get?_prepare_congr {f : Positions → List String → Except LayoutError Positions}
    (h : diagrams.prepare name positions (Generator.ofFunction f) s = .ok prepared t)
    {diagrams' prepared' : DiagramSet} {name' : String} {positions' : Positions} {s' t' : σ}
    (h' : diagrams'.prepare name' positions' (Generator.ofFunction f) s' = .ok prepared' t')
    {other : String} (hother : other ≠ name) (hother' : other ≠ name')
    (hsame : diagrams'.get? other = diagrams.get? other) :
    prepared'.get? other = prepared.get? other := by
  cases hd : diagrams.get? other with
  | none =>
    have hnone : ∀ {r r' : DiagramSet}, r'.keys = r.keys → r.get? other = none →
        r'.get? other = none := by
      intro r r' hkeys hr
      rw [Registry.get?_eq_none, hkeys]
      exact Registry.get?_eq_none.1 hr
    rw [hnone (keys_of_prepare h) hd, hnone (keys_of_prepare h') (hsame.trans hd)]
  | some d =>
    obtain ⟨d₁, u, v, hd₁, hfill⟩ := exists_fill_of_prepare h hother hd
    obtain ⟨d₂, u', v', hd₂, hfill'⟩ := exists_fill_of_prepare h' hother' (hsame.trans hd)
    have hagain := (d.stateless_fill f).eq_ok hfill u'
    rw [hfill'] at hagain
    cases hagain
    rw [hd₁, hd₂]

/-- **Preparing a save writes the live positions and moves nothing else.** The diagrams stay the
same ones in the same order. The one on the canvas is prepared with the live positions. Every other
one keeps the list of its entries, with places only for those that had none, and it becomes the same
whatever else is in the set if the generator computes from its arguments alone. -/
theorem prepare_leaves_rest (h : diagrams.prepare name positions g s = .ok prepared t) :
    prepared.keys = diagrams.keys ∧
      (∃ d d', diagrams.get? name = some d ∧ prepared.get? name = some d' ∧
        d.Prepared positions d') ∧
      (∀ other d, other ≠ name → diagrams.get? other = some d →
        ∃ d', prepared.get? other = some d' ∧ d'.name = d.name ∧
          List.Forall₂ (Entry.Prepared ∅) d.entries d'.entries ∧
          d'.entries.map Entry.bare = d.entries.map Entry.bare) ∧
      ∀ f, g = Generator.ofFunction f →
        ∀ (diagrams' prepared' : DiagramSet) (name' : String) (positions' : Positions) (s' t' : σ),
          diagrams'.prepare name' positions' g s' = .ok prepared' t' →
          ∀ other, other ≠ name → other ≠ name' → diagrams'.get? other = diagrams.get? other →
            prepared'.get? other = prepared.get? other := by
  refine ⟨keys_of_prepare h, ?_, ?_, ?_⟩
  · obtain ⟨d, hd, hfill⟩ := prepare_eq_ok h
    obtain ⟨d', u, v, hd', hdiagram⟩ := get?_of_fill hfill (Registry.get?_insert_self ..)
    exact ⟨d, d', hd, hd', Diagram.prepared_of_fill_materialize hdiagram⟩
  · intro other d hother hd
    obtain ⟨d', u, v, hd', hdiagram⟩ := exists_fill_of_prepare h hother hd
    exact ⟨d', hd', Diagram.prepared_of_fill hdiagram⟩
  · rintro f rfl diagrams' prepared' name' positions' s' t' h' other hother hother' hsame
    exact get?_prepare_congr h h' hother hother' hsame

end DiagramSet

/-! A diagram on the canvas that names a table twice and one that is gone, and a diagram beside it
that lacks a coordinate. -/

/-- The diagram on the canvas. -/
def liveDiagram : Diagram :=
  ⟨"main", [.table "a.x" none none, .wildcard "b", .placed "c.gone" ⟨.whole 1, .whole 2⟩,
    .placed "a.x" ⟨.whole 3, .whole 4⟩, .table "a.z" none none]⟩

/-- A diagram beside it. -/
def sideDiagram : Diagram :=
  ⟨"side", [.placed "a.x" ⟨.whole 5, .whole 6⟩, .wildcard "a", .table "b.y" (some (.whole 7)) none]⟩

/-- The live positions. -/
def livePositions : Positions :=
  .ofList [("b.y", ⟨.whole 10, .whole 11⟩), ("a.x", ⟨.whole 12, .whole 13⟩)]

/-- The diagram on the canvas, prepared. -/
def livePrepared : Diagram :=
  ⟨"main", [.placed "a.x" ⟨.whole 12, .whole 13⟩, .wildcard "b",
    .placed "b.y" ⟨.whole 10, .whole 11⟩, .placed "c.gone" ⟨.whole 1, .whole 2⟩,
    .placed "a.x" ⟨.whole 12, .whole 13⟩, .placed "a.z" ⟨.whole 0, .whole 9⟩]⟩

/-- The diagram beside it, prepared. -/
def sidePrepared : Diagram :=
  ⟨"side", [.placed "a.x" ⟨.whole 5, .whole 6⟩, .wildcard "a", .placed "b.y" ⟨.whole 0, .whole 9⟩]⟩

/-- The diagram on the canvas gets the live positions and the one beside it only a missing place. -/
theorem prepare_liveDiagram :
    let g : Generator Unit := .ofFunction fun _ names =>
      .ok (.ofList (names.map fun name => (name, ⟨.whole 0, .whole 9⟩)))
    DiagramSet.prepare (.ofDiagrams [liveDiagram, sideDiagram]) "main" livePositions g ()
        = .ok (.ofDiagrams [livePrepared, sidePrepared]) () ∧
      liveDiagram.Prepared livePositions livePrepared ∧
      List.Forall₂ (Entry.Prepared ∅) sideDiagram.entries sidePrepared.entries ∧
      sidePrepared.entries.map Entry.bare = sideDiagram.entries.map Entry.bare ∧
      ∃ prepared, DiagramSet.prepare (.ofDiagrams [sideDiagram, ⟨"other", [.wildcard "c"]⟩]) "other"
          ∅ g () = .ok prepared () ∧ prepared.get? "side" = some sidePrepared := by
  intro g
  have h : DiagramSet.prepare (.ofDiagrams [liveDiagram, sideDiagram]) "main" livePositions g ()
      = .ok (.ofDiagrams [livePrepared, sidePrepared]) () := by decide +kernel
  have h' : DiagramSet.prepare (.ofDiagrams [sideDiagram, ⟨"other", [.wildcard "c"]⟩]) "other" ∅
      g () = .ok (.ofDiagrams [sidePrepared, ⟨"other", [.wildcard "c"]⟩]) () := by decide +kernel
  obtain ⟨-, ⟨d, d', hd, hd', hlive⟩, hside, hpure⟩ := DiagramSet.prepare_leaves_rest h
  cases hd
  cases hd'
  obtain ⟨e', he', -, hentries, hbare⟩ := hside "side" sideDiagram (by decide) rfl
  cases he'
  exact ⟨h, hlive, hentries, hbare, _, h',
    hpure _ rfl _ _ _ _ _ _ h' "side" (by decide) (by decide) rfl⟩

end SchemaCanvas
