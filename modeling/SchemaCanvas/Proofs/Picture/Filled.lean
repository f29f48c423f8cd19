import SchemaCanvas.Proofs.Layout.Writable
import SchemaCanvas.Proofs.Picture.Stored

/-!
# Filling diagrams in for a strict save

A generator that places whatever it is asked for fills every set of diagrams in
(`DiagramSet.exists_fill`). A diagram with a table that it stores no place of becomes complete; a
diagram that stores a place of each of its tables is left as it is, and so is an entry without a
place that repeats one of them (`Diagram.complete_of_fill`). The filled diagrams can be written
strictly just when there is no such entry (`DiagramSet.fill_write_iff`). Diagrams that can be
written strictly as they are need no filling (`DiagramSet.fill_of_write`).
-/

namespace SchemaCanvas

variable {σ : Type} {g : Generator σ}

/-- Whether the generator puts the tables that it is asked for at finite places. -/
def Generator.Finite (g : Generator σ) : Prop :=
  ∀ existing names s answer t, g existing names s = .ok answer t →
    ∀ name ∈ names, ∀ p, answer.get? name = some p → p.Finite

/-- A generator that puts everything at one finite place gives finite places. -/
theorem Generator.finite_constant {p : Position} (hp : p.Finite) :
    (Generator.constant p).Finite := by
  intro existing names s answer t h name _ q hq
  rw [Generator.eq_of_constant h hq]
  exact hp

/-- Whether the diagram is complete in case it stores a place of each of its tables. -/
def Diagram.Fills (d : Diagram) : Prop :=
  (∀ name ∈ d.tableNames, name ∈ d.stored.keys) → ∀ e ∈ d.entries, e.Complete

/-! ## Filling succeeds -/

/-- A total generator can fill in the places of a diagram. -/
theorem Generator.Total.exists_fill (hg : g.Total) (d : Diagram) (s : σ) :
    ∃ filled t, d.fill g s = .ok filled t := by
  unfold Diagram.fill
  split
  · exact ⟨d, s, rfl⟩
  · obtain ⟨more, t, hmore⟩ := hg.exists_placeAll d.stored _ s
    exact ⟨_, t, bind_eq_ok.2 ⟨more, t, hmore, rfl⟩⟩

/-- A total generator can fill in the places of diagrams one after another. -/
theorem Generator.Total.exists_fillItems (hg : g.Total) (items : List (String × Diagram)) (s : σ) :
    ∃ filled t, DiagramSet.fillItems g items s = .ok filled t := by
  induction items generalizing s with
  | nil => exact ⟨[], s, rfl⟩
  | cons item items ih =>
    obtain ⟨d, u, hd⟩ := hg.exists_fill item.2 s
    obtain ⟨more, t, hmore⟩ := ih u
    exact ⟨_, t, bind_eq_ok.2 ⟨d, u, hd, bind_eq_ok.2 ⟨more, t, hmore, rfl⟩⟩⟩

/-- A total generator fills every set of diagrams in. -/
theorem DiagramSet.exists_fill (hg : g.Total) (diagrams : DiagramSet) (s : σ) :
    ∃ filled t, diagrams.fill g s = .ok filled t := by
  obtain ⟨items, t, hitems⟩ := hg.exists_fillItems diagrams.items s
  exact ⟨_, t, bind_eq_ok.2 ⟨items, t, hitems, rfl⟩⟩

/-! ## One diagram -/

/-- An entry of a table with a position is complete once it is filled in. -/
theorem Entry.complete_fill {positions : Positions} {e : Entry}
    (h : ∀ name, e.tableName? = some name → name ∈ positions.keys) :
    (e.fill positions).Complete := by
  intro htable
  rw [Entry.tableName?_fill] at htable
  obtain ⟨name, hname⟩ := Option.isSome_iff_exists.1 htable
  obtain ⟨p, hp⟩ := Registry.exists_get? (h name hname)
  unfold Entry.fill
  split
  · assumption
  · rw [Entry.moveTo_of_get? hp hname]
    rfl

/-- An entry is finite after its place is filled in, when it was before and the place for its table
is. -/
theorem Entry.finite_fill {positions : Positions} {e : Entry} (he : e.Finite)
    (h : ∀ name p, e.tableName? = some name → positions.get? name = some p → p.Finite) :
    (e.fill positions).Finite := by
  unfold Entry.fill
  split
  · exact he
  · cases e with
    | wildcard schema => trivial
    | table name x y =>
      cases hp : positions.get? name with
      | none =>
        simp only [Entry.moveTo, hp]
        exact he
      | some p =>
        rw [Entry.moveTo_of_get? hp rfl, Entry.finite_placed]
        exact h name p rfl hp

variable {d filled : Diagram} {s t : σ}

/-- Filling a diagram in makes it complete, unless it stores a place of each of its tables: then it
is complete afterwards only if it was before. -/
theorem Diagram.complete_of_fill (h : d.fill g s = .ok filled t) :
    (∀ e ∈ filled.entries, e.Complete) ↔ d.Fills := by
  rcases Diagram.fill_eq_ok h with
    ⟨hstored, rfl⟩ | ⟨missing, more, positions, hne, hmissing, hmore, hpositions, rfl⟩
  · exact ⟨fun hc _ => hc, fun hf => hf hstored⟩
  · obtain ⟨name, hname⟩ := List.exists_mem_of_ne_nil missing hne
    obtain ⟨htable, hunstored⟩ := (hmissing name).1 hname
    refine ⟨fun _ hstored => absurd (hstored name htable) hunstored, fun _ e he => ?_⟩
    obtain ⟨e', he', rfl⟩ := List.mem_map.1 he
    refine Entry.complete_fill fun table ht => ?_
    have hentry : table ∈ d.tableNames := List.mem_filterMap.2 ⟨e', he', ht⟩
    rw [← Registry.isSome_get?, hpositions, Option.isSome_or, Bool.or_eq_true,
      Registry.isSome_get?, Registry.isSome_get?, Generator.mem_keys_placeAll hmore, hmissing]
    by_cases hk : table ∈ d.stored.keys
    · exact .inl hk
    · exact .inr ⟨hentry, hk⟩

/-- A diagram with finite coordinates has finite ones after its places are filled in. -/
theorem Diagram.finite_of_fill (hg : g.Finite) (hd : ∀ e ∈ d.entries, e.Finite)
    (h : d.fill g s = .ok filled t) : ∀ e ∈ filled.entries, e.Finite := by
  rcases Diagram.fill_eq_ok h with
    ⟨-, rfl⟩ | ⟨missing, more, positions, hne, hmissing, hmore, hpositions, rfl⟩
  · exact hd
  · intro e he
    obtain ⟨e', he', rfl⟩ := List.mem_map.1 he
    refine Entry.finite_fill (hd e' he') fun name p _ hp => ?_
    rw [hpositions, Option.or_eq_some_iff] at hp
    rcases hp with hstored | ⟨-, hgiven⟩
    · exact Entry.finite_placed.1 (hd _ (Diagram.placed_mem_of_stored hstored))
    · obtain ⟨hn, given, hgiven, hplace⟩ := Generator.exists_of_get?_placeAll hmore hgiven
      exact hg _ _ _ _ _ hgiven name hn p hplace

/-- A diagram whose entries all have their place stores a place of each of its tables. -/
theorem Diagram.mem_stored_of_complete (h : ∀ e ∈ d.entries, e.Complete)
    {name : String} (hn : name ∈ d.tableNames) : name ∈ d.stored.keys := by
  obtain ⟨e, he, hname⟩ := List.mem_filterMap.1 hn
  obtain ⟨p, hp⟩ := Option.isSome_iff_exists.1 (h e he (by rw [hname]; rfl))
  have hplacement : e.placement? = some (name, p) := by
    rcases e with schema | ⟨table, _ | x, _ | y⟩
    · cases hname
    · cases hp
    · cases hp
    · cases hp
    · cases hname
      cases hp
      rfl
  rw [Diagram.stored_eq, Registry.mem_keys_ofList]
  exact List.mem_map.2 ⟨(name, p), List.mem_filterMap.2 ⟨e, he, hplacement⟩, rfl⟩

/-! ## Sets of diagrams -/

/-- The diagrams are filled in one by one, in order. -/
theorem DiagramSet.forall₂_fill {diagrams filled : DiagramSet}
    (h : diagrams.fill g s = .ok filled t) :
    List.Forall₂ (fun d d' => ∃ u v, Diagram.fill d g u = .ok d' v) diagrams.values
      filled.values := by
  have hitems : ∀ {items filled : List (String × Diagram)} {s t : σ},
      DiagramSet.fillItems g items s = .ok filled t →
      List.Forall₂ (fun d d' => ∃ u v, Diagram.fill d g u = .ok d' v) (items.map Prod.snd)
        (filled.map Prod.snd) := by
    intro items
    induction items with
    | nil =>
      intro filled s t h
      cases h
      exact .nil
    | cons item items ih =>
      intro filled s t h
      obtain ⟨d, u, hd, h⟩ := bind_eq_ok.1 h
      obtain ⟨more, v, hmore, h⟩ := bind_eq_ok.1 h
      cases h
      exact .cons ⟨s, u, hd⟩ (ih hmore)
  obtain ⟨items, u, hfill, h⟩ := bind_eq_ok.1 h
  cases h
  have hkeys : (items.map Prod.fst).Nodup := by
    rw [DiagramSet.map_fst_fillItems hfill]
    exact diagrams.nodup_keys
  rw [Registry.values, Registry.values, Registry.items_ofList hkeys]
  exact hitems hfill

/-- Diagrams that have been written strictly are filled in as they are. -/
theorem DiagramSet.fill_of_write {diagrams : DiagramSet} {block : String}
    (h : Block.write true diagrams = .ok block) (g : Generator σ) (s : σ) :
    diagrams.fill g s = .ok diagrams s := by
  refine DiagramSet.fill_of_stored (fun d hd name hn => ?_) g s
  refine Diagram.mem_stored_of_complete (fun e he => ?_) hn
  obtain ⟨line, hline⟩ := Block.exists_write_iff.1 ⟨block, h⟩ d hd e he
  exact Entry.complete_of_line hline

/-- Diagrams with finite coordinates are filled in by a generator that gives every table a finite
place. Afterwards every entry of a table has its place, and the diagrams can be written strictly,
just when no diagram has stored a place of each of its tables beside an entry without one. -/
theorem DiagramSet.fill_write_iff {diagrams : DiagramSet}
    (hd : ∀ d ∈ diagrams.values, ∀ e ∈ d.entries, e.Finite) (hg : g.Total) (hp : g.Finite) (s : σ) :
    ∃ filled t, diagrams.fill g s = .ok filled t ∧
      ((∀ d ∈ filled.values, ∀ e ∈ d.entries, e.Complete) ↔ ∀ d ∈ diagrams.values, d.Fills) ∧
      ((∃ block, Block.write true filled = .ok block) ↔ ∀ d ∈ diagrams.values, d.Fills) := by
  obtain ⟨filled, t, hfill⟩ := diagrams.exists_fill hg s
  have hvalues := forall₂_fill hfill
  have hcomplete : (∀ d ∈ filled.values, ∀ e ∈ d.entries, e.Complete) ↔
      ∀ d ∈ diagrams.values, d.Fills := by
    constructor
    · intro h d hmem
      obtain ⟨d', hmem', u, v, hdiagram⟩ := forall₂_exists_of_mem_right hvalues.flip hmem
      exact (Diagram.complete_of_fill hdiagram).1 (h d' hmem')
    · intro h d' hmem'
      obtain ⟨d, hmem, u, v, hdiagram⟩ := forall₂_exists_of_mem_right hvalues hmem'
      exact (Diagram.complete_of_fill hdiagram).2 (h d hmem)
  have hfinite : ∀ d ∈ filled.values, ∀ e ∈ d.entries, e.Finite := by
    intro d' hmem'
    obtain ⟨d, hmem, u, v, hdiagram⟩ := forall₂_exists_of_mem_right hvalues hmem'
    exact Diagram.finite_of_fill hp (hd d hmem) hdiagram
  exact ⟨filled, t, hfill, hcomplete, (Block.exists_write_iff_complete hfinite).trans hcomplete⟩

/-! A diagram that lists one table twice, first without a place, is left as it is. -/

/-- A diagram with two entries of one table, the second one with its place. -/
def repeatedTable : DiagramSet :=
  .ofDiagrams [⟨"main", [.table "s.t" none none, .placed "s.t" ⟨.whole 1, .whole 2⟩]⟩]

/-- The places of the diagram are filled in without a failure, and it cannot be written for a save
afterwards. -/
theorem fill_repeatedTable_not_written :
    let g := Generator.constant ⟨.whole 0, .whole 0⟩
    (∀ d ∈ repeatedTable.values, ∀ e ∈ d.entries, e.Finite) ∧ g.Total ∧ g.Finite ∧
      ∃ filled t, repeatedTable.fill g () = .ok filled t ∧
        ¬ (∀ d ∈ filled.values, ∀ e ∈ d.entries, e.Complete) ∧
        ¬ ∃ block, Block.write true filled = .ok block := by
  intro g
  have whole : ∀ n : Int, (Number.whole n).Finite := fun _ => rfl
  have hvalues : repeatedTable.values
      = [⟨"main", [.table "s.t" none none, .placed "s.t" ⟨.whole 1, .whole 2⟩]⟩] := rfl
  have hd : ∀ d ∈ repeatedTable.values, ∀ e ∈ d.entries, e.Finite := by
    simp [hvalues, Entry.Finite, Entry.placed, whole]
  have hp : g.Finite := Generator.finite_constant ⟨whole 0, whole 0⟩
  have hfills : ¬ ∀ d ∈ repeatedTable.values, d.Fills := by
    intro h
    rw [hvalues] at h
    have hstored : ∀ name ∈ ["s.t", "s.t"], name ∈ ["s.t"] := by simp
    exact absurd (h _ List.mem_cons_self hstored _ List.mem_cons_self rfl) (by decide)
  obtain ⟨filled, t, hfill, hcomplete, hwrite⟩ :=
    DiagramSet.fill_write_iff hd (Generator.total_constant _) hp ()
  exact ⟨hd, Generator.total_constant _, hp, filled, t, hfill, fun h => hfills (hcomplete.1 h),
    fun h => hfills (hwrite.1 h)⟩

end SchemaCanvas
