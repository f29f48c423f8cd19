import SchemaCanvas.Proofs.Picture.Shown
import SchemaCanvas.Schema.Build

/-!
# Refreshing again and again

A diagram is refreshed for one schema after another, with one generator after another. The diagrams
that a refresh gives are those that the next one goes out from, and a refresh that fails leaves them
(`Canvas.step`). A refresh stores the place of every table that it shows, so the places on show are
always stored (`Canvas.run_recorded`), and no later refresh moves a table as long as its schemas
have it. Refreshing puts entries of tables into one diagram and drops some; it never touches a
wildcard of that diagram, nor another diagram (`DiagramSet.attended_refresh`). Both hold along every
run (`Canvas.run_stays`).
-/

namespace SchemaCanvas

variable {σ : Type}

/-! ## Wildcards -/

/-- Whether an entry brings in a whole schema. -/
def Entry.isWildcard (e : Entry) : Bool :=
  e.tableName?.isNone

/-- The wildcards of a diagram, in order. -/
def Diagram.wildcards (d : Diagram) : List Entry :=
  d.entries.filter Entry.isWildcard

/-- Pruning drops no wildcard. -/
theorem Diagram.wildcards_prune (d : Diagram) (schema : Schema) :
    (d.prune schema).wildcards = d.wildcards := by
  rw [Diagram.wildcards, Diagram.prune, List.filter_filter]
  refine List.filter_congr fun e _ => ?_
  cases e <;> simp [Entry.isWildcard, Entry.tableName?]

/-- A moved entry is a wildcard just if it was one. -/
theorem Entry.isWildcard_moveTo (positions : Positions) (e : Entry) :
    (e.moveTo positions).isWildcard = e.isWildcard := by
  rw [Entry.isWildcard, Entry.tableName?_moveTo, Entry.isWildcard]

/-- New entries of tables are no wildcards. -/
theorem Entry.filter_isWildcard_placed (items : List (String × Position)) :
    (items.map fun item => Entry.placed item.1 item.2).filter Entry.isWildcard = [] := by
  refine List.filter_eq_nil_iff.2 fun e he => ?_
  obtain ⟨item, -, rfl⟩ := List.mem_map.1 he
  exact Bool.false_ne_true

/-- Writing positions keeps the wildcards and their order. -/
theorem Entry.filter_isWildcard_materialize (positions : Positions)
    (pending : List (String × Position)) (es : List Entry) :
    (Entry.materialize positions pending es).filter Entry.isWildcard
      = es.filter Entry.isWildcard := by
  induction es generalizing pending with
  | nil => rw [Entry.materialize, Entry.filter_isWildcard_placed, List.filter_nil]
  | cons e es ih =>
    cases e with
    | wildcard name =>
      have hwildcard : (Entry.wildcard name).isWildcard = true := rfl
      rw [Entry.materialize_wildcard, List.cons_append, List.filter_cons_of_pos hwildcard,
        List.filter_cons_of_pos hwildcard, List.filter_append, Entry.filter_isWildcard_placed,
        List.nil_append, ih]
    | table name x y =>
      have htable : ¬ (Entry.table name x y).isWildcard = true := Bool.false_ne_true
      have hmoved : ¬ ((Entry.table name x y).moveTo positions).isWildcard = true := by
        rwa [Entry.isWildcard_moveTo]
      rw [Entry.materialize_table, List.filter_cons_of_neg hmoved, List.filter_cons_of_neg htable,
        ih]

/-- Writing positions into a diagram adds no wildcard and moves none past another. -/
theorem Diagram.wildcards_materialize (d : Diagram) (positions : Positions) :
    (d.materialize positions).wildcards = d.wildcards :=
  Entry.filter_isWildcard_materialize positions _ d.entries

/-! ## What refreshing leaves as it is -/

namespace DiagramSet

/-- The diagrams `after` differ from those `before` in the diagram called `name` only, and there not
in the wildcards. -/
structure Attended (name : String) (before after : DiagramSet) : Prop where
  keys : after.keys = before.keys
  others : ∀ other, other ≠ name → after.get? other = before.get? other
  wildcards : (after.get? name).map Diagram.wildcards = (before.get? name).map Diagram.wildcards

/-- What stays the same differs nowhere. -/
theorem Attended.refl (name : String) (diagrams : DiagramSet) : Attended name diagrams diagrams :=
  ⟨rfl, fun _ _ => rfl, rfl⟩

/-- Changes to one diagram after another are a change to that diagram. -/
theorem Attended.trans {name : String} {before between after : DiagramSet}
    (h : Attended name before between) (h' : Attended name between after) :
    Attended name before after where
  keys := h'.keys.trans h.keys
  others other hne := (h'.others other hne).trans (h.others other hne)
  wildcards := h'.wildcards.trans h.wildcards

/-- A refresh changes the diagram that it is for, and keeps its wildcards. -/
theorem attended_refresh {diagrams updated : DiagramSet} {name : String} {schema : Schema}
    {g : Generator σ} {picture : Picture} {s t : σ}
    (h : diagrams.refresh name schema g s = .ok (picture, updated) t) :
    Attended name diagrams updated := by
  obtain ⟨d, positions, hd, -, -, -, -, rfl⟩ := refresh_eq_ok h
  refine ⟨?_, fun other hne => Registry.get?_insert_of_ne hne _ _, ?_⟩
  · rw [Registry.keys_insert, if_pos (Registry.mem_keys_of_get? hd)]
  · rw [Registry.get?_insert_self, hd, Option.map_some, Option.map_some,
      Diagram.wildcards_materialize, Diagram.wildcards_prune]

/-- A refresh stores the places that its picture shows. -/
theorem stores_refresh {diagrams updated : DiagramSet} {name table : String} {schema : Schema}
    {g : Generator σ} {picture : Picture} {p : Position} {s t : σ}
    (h : diagrams.refresh name schema g s = .ok (picture, updated) t)
    (hp : picture.positions.get? table = some p) : updated.Stores name table p := by
  obtain ⟨d, positions, -, -, -, hpositions, -, rfl⟩ := refresh_eq_ok h
  rw [hpositions] at hp
  exact stores_insert_self diagrams name (Diagram.get?_stored_materialize _ hp)

end DiagramSet

/-! ## Runs -/

/-- A refresh that is asked for: the schema and the generator. -/
structure Renewal (σ : Type) where
  schema : Schema
  generator : Generator σ

/-- The picture that the last refresh gave that succeeded, the diagrams, and the generators'
state. -/
structure Canvas (σ : Type) where
  picture? : Option Picture
  diagrams : DiagramSet
  state : σ

namespace Canvas

/-- The canvas before the first refresh. -/
def start (diagrams : DiagramSet) (s : σ) : Canvas σ :=
  ⟨none, diagrams, s⟩

/-- Whether a refresh of the diagram called `name` succeeds. -/
def renews (name : String) (c : Canvas σ) (r : Renewal σ) : Bool :=
  match c.diagrams.refresh name r.schema r.generator c.state with
  | .ok _ _ => true
  | .error _ _ => false

/-- The canvas after a refresh of the diagram called `name`. One that fails leaves the picture and
the diagrams as they are. -/
def step (name : String) (c : Canvas σ) (r : Renewal σ) : Canvas σ :=
  match c.diagrams.refresh name r.schema r.generator c.state with
  | .ok (picture, diagrams) t => ⟨some picture, diagrams, t⟩
  | .error _ t => { c with state := t }

/-- The canvas after several refreshes of the diagram called `name`, one after another. -/
def run (name : String) (c : Canvas σ) (renewals : List (Renewal σ)) : Canvas σ :=
  renewals.foldl (step name) c

/-- The canvas shows a table at a place. -/
def Shows (c : Canvas σ) (table : String) (p : Position) : Prop :=
  ∃ picture, c.picture? = some picture ∧ picture.positions.get? table = some p

/-- The diagram called `name` stores every place that the canvas shows. -/
def Recorded (name : String) (c : Canvas σ) : Prop :=
  ∀ table p, c.Shows table p → c.diagrams.Stores name table p

variable {name table : String} {p : Position} {c : Canvas σ} {r : Renewal σ}

/-- All that a refresh can do. -/
theorem step_cases (name : String) (c : Canvas σ) (r : Renewal σ) :
    (∃ picture updated t,
      c.diagrams.refresh name r.schema r.generator c.state = .ok (picture, updated) t ∧
        c.renews name r = true ∧ c.step name r = ⟨some picture, updated, t⟩) ∨
      ∃ t, c.renews name r = false ∧ c.step name r = { c with state := t } := by
  unfold renews step
  cases h : c.diagrams.refresh name r.schema r.generator c.state with
  | ok result t => exact .inl ⟨result.1, result.2, t, rfl, rfl, rfl⟩
  | error cause t => exact .inr ⟨t, rfl, rfl⟩

/-- A run that goes on is the second part of it, from where the first one ends. -/
theorem run_append (name : String) (c : Canvas σ) (before later : List (Renewal σ)) :
    c.run name (before ++ later) = (c.run name before).run name later :=
  List.foldl_append

/-- A canvas that has shown nothing yet has nothing to store. -/
theorem recorded_start (name : String) (diagrams : DiagramSet) (s : σ) :
    (start diagrams s).Recorded name :=
  fun _ _ ⟨_, hpicture, _⟩ => nomatch hpicture

/-- A refresh leaves every place that is shown stored, whether it succeeds or fails. -/
theorem Recorded.step (h : c.Recorded name) (r : Renewal σ) : (c.step name r).Recorded name := by
  rcases c.step_cases name r with ⟨picture, updated, t, hrefresh, -, hstep⟩ | ⟨t, -, hstep⟩
  · rw [hstep]
    rintro table p ⟨_, ⟨⟩, hp⟩
    exact DiagramSet.stores_refresh hrefresh hp
  · rw [hstep]
    exact h

/-- Along a run the diagram stores every place that is shown. -/
theorem run_recorded (h : c.Recorded name) (renewals : List (Renewal σ)) :
    (c.run name renewals).Recorded name := by
  induction renewals generalizing c with
  | nil => exact h
  | cons r renewals ih => exact ih (h.step r)

/-- A refresh leaves a table where it is shown, if it fails or is for a schema that has the
table. -/
theorem Shows.step (h : c.Shows table p) (hrecorded : c.Recorded name)
    (hr : c.renews name r = true → r.schema.contains table = true) :
    (c.step name r).Shows table p := by
  rcases c.step_cases name r with ⟨picture, updated, t, hrefresh, hrenews, hstep⟩ | ⟨t, -, hstep⟩
  · have hstays := (hrecorded table p h).refresh (hr hrenews) hrefresh
    rw [hstep]
    exact ⟨picture, rfl, hstays.2 rfl⟩
  · rw [hstep]
    exact h

/-- A table that is shown stays where it is along a run, as long as every refresh that succeeds is
for a schema that has it. -/
theorem Shows.run (h : c.Shows table p) (hrecorded : c.Recorded name) {later : List (Renewal σ)}
    (hlater : ∀ (k : Nat) (hk : k < later.length),
      (c.run name (later.take k)).renews name later[k] = true →
        later[k].schema.contains table = true) :
    (c.run name later).Shows table p := by
  induction later generalizing c with
  | nil => exact h
  | cons r later ih =>
    have hstep : (c.step name r).Shows table p :=
      h.step hrecorded (hlater 0 (Nat.zero_lt_succ _))
    refine ih hstep (hrecorded.step r) fun k hk => ?_
    exact hlater (k + 1) (Nat.succ_lt_succ hk)

/-- A refresh, whether it succeeds or fails, leaves the other diagrams and all wildcards. -/
theorem attended_step (name : String) (c : Canvas σ) (r : Renewal σ) :
    c.diagrams.Attended name (c.step name r).diagrams := by
  rcases c.step_cases name r with ⟨picture, updated, t, hrefresh, -, hstep⟩ | ⟨t, -, hstep⟩
  · rw [hstep]
    exact DiagramSet.attended_refresh hrefresh
  · rw [hstep]
    exact .refl name c.diagrams

/-- A run of refreshes of one diagram leaves the other diagrams and the wildcards alone. -/
theorem attended_run (name : String) (c : Canvas σ) (renewals : List (Renewal σ)) :
    c.diagrams.Attended name (c.run name renewals).diagrams := by
  induction renewals generalizing c with
  | nil => exact .refl name c.diagrams
  | cons r renewals ih => exact (c.attended_step name r).trans (ih (c.step name r))

/-- **Tables stay where they are.** A diagram is refreshed for any schemas with any generators. A
table that is shown at some point is shown at the same place, and stored there, after any number of
further refreshes, if every one of them that succeeds is for a schema that has the table. At every
point the wildcards of the diagram and all other diagrams are those at the start. -/
theorem run_stays (name : String) (diagrams : DiagramSet) (s : σ) :
    (∀ (before later : List (Renewal σ)) (table : String) (p : Position),
      ((start diagrams s).run name before).Shows table p →
      (∀ (k : Nat) (hk : k < later.length),
        ((start diagrams s).run name (before ++ later.take k)).renews name later[k] = true →
          later[k].schema.contains table = true) →
      ((start diagrams s).run name (before ++ later)).Shows table p ∧
        ((start diagrams s).run name (before ++ later)).diagrams.Stores name table p) ∧
    ∀ renewals, diagrams.Attended name ((start diagrams s).run name renewals).diagrams := by
  refine ⟨fun before later table p hshown hlater => ?_, (start diagrams s).attended_run name⟩
  have hrecorded := run_recorded (recorded_start name diagrams s)
  have hstays : ((start diagrams s).run name (before ++ later)).Shows table p := by
    rw [run_append]
    refine hshown.run (hrecorded before) fun k hk => ?_
    rw [← run_append]
    exact hlater k hk
  exact ⟨hstays, hrecorded (before ++ later) table p hstays⟩

/-! A diagram with two wildcards of one schema and a table that is placed twice, over scripts from
which tables go and to which they come back, with a refresh that fails in between. -/

/-- The diagrams before the run. -/
def movingDiagrams : DiagramSet :=
  .ofDiagrams [⟨"main", [.wildcard "a", .placed "b.y" ⟨.whole 1, .whole 2⟩, .wildcard "a",
    .placed "b.y" ⟨.whole 3, .whole 4⟩]⟩, ⟨"spare", [.wildcard "b"]⟩]

/-- The refresh for a script, with one place for every new table or with a generator that fails. -/
def renewal (script : String) (place : Option Position) : Renewal Unit where
  schema := (Schema.ofText script).1
  generator := .ofFunction fun _ names =>
    match place with
    | some p => .ok (.ofList (names.map fun name => (name, p)))
    | none => .error .missingOption

/-- The refresh after which a table is followed. -/
def firstRenewal : Renewal Unit :=
  renewal "CREATE TABLE a.x (); CREATE TABLE b.y ();" (some ⟨.whole 7, .whole 8⟩)

/-- The refreshes after it; the first of them fails. -/
def laterRenewals : List (Renewal Unit) :=
  [renewal "CREATE TABLE a.z ();" none,
    renewal "CREATE TABLE a.z (); CREATE TABLE a.x ();" (some ⟨.whole 5, .whole 5⟩),
    renewal "CREATE TABLE b.y (); CREATE TABLE a.x ();" (some ⟨.whole 6, .whole 6⟩)]

/-- The table stays where the first refresh has put it, while others come and go and a refresh
fails. -/
theorem run_movingDiagrams :
    let canvas := (start movingDiagrams ()).run "main" ([firstRenewal] ++ laterRenewals)
    canvas.Shows "a.x" ⟨.whole 7, .whole 8⟩ ∧
      canvas.diagrams.get? "main" = some ⟨"main", [.wildcard "a",
        .placed "a.x" ⟨.whole 7, .whole 8⟩, .wildcard "a"]⟩ ∧
      movingDiagrams.Attended "main" canvas.diagrams := by
  intro canvas
  have hshown : ((start movingDiagrams ()).run "main" [firstRenewal]).Shows "a.x"
      ⟨.whole 7, .whole 8⟩ := Option.bind_eq_some_iff.1 (by decide +kernel)
  have hlater : ∀ (k : Nat) (hk : k < laterRenewals.length),
      ((start movingDiagrams ()).run "main" ([firstRenewal] ++ laterRenewals.take k)).renews
        "main" laterRenewals[k] = true → laterRenewals[k].schema.contains "a.x" = true := by
    decide +kernel
  obtain ⟨hstays, hattended⟩ := run_stays "main" movingDiagrams ()
  exact ⟨(hstays [firstRenewal] laterRenewals "a.x" _ hshown hlater).1, by decide +kernel,
    hattended _⟩

end Canvas

end SchemaCanvas
