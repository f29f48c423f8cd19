import SchemaCanvas.Proofs.Sync.Run

/-!
# No drag is lost

A table that is dragged on a diagram stays where it was put, whatever happens next, until it is
dragged again on that diagram, another file is loaded, or a refresh finds it gone
(`drag_is_kept`). The drag lives in the positions on the canvas, in the diagram, or in the diagrams
of a pending save; `Session.Keeps` says in which of them it must be, and one step keeps it
(`keeps_outcome`). The positions alone may hold it only while its diagram is on the canvas of a
session that is dirty or saving: then every way off the canvas writes the positions into the diagram
first.
-/

namespace SchemaCanvas

variable {σ : Type}

/-! ## What overrides a drag -/

/-- Whether the event puts a picture on the canvas: a selection or move succeeds, or a file that has
been read is taken over. -/
def Event.draws (g : Generator σ) (s : Session × σ) (e : Event) : Bool :=
  match e.step g s with
  | .ok (some _) _ => true
  | _ => false

/-- Whether the event leaves a drag of the table on the diagram called `name` alone. Only an event
that puts a picture on the canvas can override the drag: a move of the table on that diagram, a
load, and a refresh whose schema does not have the table. -/
def Event.spares (g : Generator σ) (name table : String) (s : Session × σ) (e : Event) : Bool :=
  !e.draws g s ||
    match e, s.1.pending with
    | .move other _, _ => decide (¬ (other = table ∧ s.1.active = some name))
    | .read _, some (.load _) => false
    | .read _, _ => (e.next g s).1.schema.contains table
    | _, _ => true

/-- Whether no event of a run overrides a drag of the table on the diagram called `name`. -/
def spared (g : Generator σ) (name table : String) : Session × σ → List Event → Bool
  | _, [] => true
  | s, e :: events => e.spares g name table s && spared g name table (e.next g s) events

/-- A step that answers with a picture puts one on the canvas. -/
theorem Event.draws_of_step {g : Generator σ} {s s' : Session × σ} {e : Event} {picture : Picture}
    (h : e.step g s = .ok (some picture) s') : e.draws g s = true := by
  rw [Event.draws, h]

/-- An event that puts a picture on the canvas has a step that answers with it. -/
theorem Event.exists_of_draws {g : Generator σ} {s : Session × σ} {e : Event}
    (h : e.draws g s = true) : ∃ picture s', e.step g s = .ok (some picture) s' := by
  unfold Event.draws at h
  split at h
  · next picture s' he => exact ⟨picture, s', he⟩
  · cases h

/-! ## Where a drag lives -/

/-- The session keeps the table at a position on the diagram called `name`. -/
structure Session.Keeps (s : Session) (name table : String) (p : Position) : Prop where
  known : s.schema.contains table = true
  shown : s.active = some name → s.positions.get? table = some p
  stored : ¬ (s.active = some name ∧ (s.phase = .dirty ∨ s.phase = .saving)) →
    s.diagrams.Stores name table p
  saved : ∀ diagrams text, s.pending = some (.save s.latest diagrams text) →
    DiagramSet.Stores diagrams name table p

namespace Session.Keeps

variable {s : Session} {name table : String} {p : Position}

/-- What is committed stores the drag: the diagram on the canvas takes the positions there, and
every other diagram stores the drag already. -/
theorem commits (h : s.Keeps name table p) {diagrams : DiagramSet} (hc : s.Commits diagrams) :
    diagrams.Stores name table p := by
  unfold Session.Commits at hc
  split at hc
  · next ha =>
    rw [hc]
    exact h.stored fun hs => by rw [ha] at hs; exact nomatch hs.1
  · next active ha =>
    obtain ⟨d, hd, rfl⟩ := hc
    by_cases hn : name = active
    · subst hn
      exact DiagramSet.stores_insert_self _ _ (Diagram.get?_stored_materialize d (h.shown ha))
    · refine (h.stored fun hs => hn ?_).insert_of_ne hn _
      rw [ha] at hs
      exact (Option.some.inj hs.1).symm

/-- What a selection goes on with stores the drag. -/
theorem leaves (h : s.Keeps name table p) {diagrams : DiagramSet} (hl : s.Leaves diagrams) :
    diagrams.Stores name table p := by
  rcases hl with ⟨-, hc⟩ | ⟨hp, rfl⟩
  · exact h.commits hc
  · exact h.stored fun hs => hp hs.2

end Session.Keeps

/-- One step that does not override a drag keeps it. -/
theorem keeps_outcome {g : Generator σ} (hg : g.Total) {name table : String} {p : Position}
    {e : Event} {s : Session × σ} {r : Result σ} (hs : s.1.Sound) (hk : s.1.Keeps name table p)
    (ho : Outcome g e s r) (he : e.step g s = r) (hsp : e.spares g name table s = true) :
    (Result.after r).1.Keeps name table p := by
  cases ho with
  | refused => exact hk
  | startedLoad | startedRefresh => exact ⟨hk.known, hk.shown, hk.stored, nofun⟩
  | startedSave _ _ hc hf _ =>
    refine ⟨hk.known, hk.shown, fun hn => ?_, fun diagrams text hp => ?_⟩
    · exact hk.stored fun ha => hn ⟨ha.1, .inr rfl⟩
    · cases hp
      exact (hk.commits hc).of_fill hf
  | unsaved => exact ⟨hk.known, hk.shown, hk.stored, fun _ _ hp => absurd rfl (hs.number_ne hp)⟩
  | selected _ hn hl hr =>
    have hd := hk.leaves hl
    refine ⟨hk.known, fun ha => ?_, fun _ => hd, fun _ _ hp => absurd rfl (hs.number_ne hp)⟩
    cases ha
    exact hd.get?_resolve hk.known hr
  | uncommitted =>
    exact ⟨hk.known, hk.shown, hk.stored, fun _ _ hp => absurd rfl (hs.number_ne hp)⟩
  | unplaced _ hn hl hr => exact absurd hr (DiagramSet.resolve_ne_error (hl.keys ▸ hn) hg)
  | @moved s t active other position hsh hm _ =>
    refine ⟨hk.known, fun ha => ?_, fun hn => ?_, fun _ _ hp => absurd rfl (hs.number_ne hp)⟩
    · have hne : table ≠ other := by
        rintro rfl
        simp [Event.spares, Event.draws_of_step he, show s.active = some name from ha] at hsp
      exact (Registry.get?_insert_of_ne hne _ _).trans (hk.shown ha)
    · refine hk.stored fun ha => hn ⟨ha.1, ?_⟩
      by_cases hph : s.phase = .saving
      · exact .inr (if_pos hph)
      · exact .inl (if_neg hph)
  | strayed _ _ ho hc =>
    have := hs.known _ ho
    rw [hc] at this
    cases this
  | unread | discarded => exact ⟨hk.known, hk.shown, hk.stored, nofun⟩
  | loaded hp => simp [Event.spares, Event.draws_of_step he, hp] at hsp
  | unshown hp hf hn hr =>
    have hmem := headD_mem (Loaded.keys_ne_nil hf) defaultDiagramName
    exact absurd hr (DiagramSet.resolve_ne_error (hn ▸ hmem) hg)
  | @refreshed s t t' text active previous diagrams schema warnings picture hp hc hsc hr =>
    have hknown : schema.contains table = true := by
      simpa [Event.spares, Event.draws_of_step he, hp, Event.next, he, Result.after,
        Session.showing] using hsp
    obtain ⟨hd, hshown⟩ := (hk.commits hc).refresh hknown hr
    refine ⟨hknown, fun ha => hshown ?_, fun _ => hd, nofun⟩
    exact Option.some.inj ((hs.refresh_active active hp).symm.trans ha)
  | unwritten | writtenLate =>
    exact ⟨hk.known, hk.shown, fun hn => hk.stored fun ha => hn ⟨ha.1, .inl rfl⟩, nofun⟩
  | written hp => exact ⟨hk.known, hk.shown, fun _ => hk.saved _ _ hp, nofun⟩

/-- A run that does not override a drag keeps it. -/
theorem keeps_run {g : Generator σ} (hg : g.Total) {name table : String} {p : Position}
    {s : Session × σ} (hs : s.1.Sound) (hk : s.1.Keeps name table p) {events : List Event}
    (hsp : spared g name table s events = true) :
    (Session.run g s events).1.Keeps name table p := by
  induction events generalizing s with
  | nil => exact hk
  | cons e events ih =>
    have ho := outcome_step g e s
    obtain ⟨hsp, hrest⟩ := Bool.and_eq_true_iff.1 hsp
    exact ih (sound_outcome hg hs ho) (keeps_outcome hg hs hk ho rfl hsp) hrest

/-- A drag is kept as soon as it is made. -/
theorem keeps_of_moves {g : Generator σ} {name table : String} {p : Position} {s : Session × σ}
    (hs : s.1.Sound) (ha : s.1.active = some name)
    (hd : (Event.move table p).draws g s = true) :
    ((Event.move table p).next g s).1.Keeps name table p := by
  obtain ⟨picture, s', he⟩ := Event.exists_of_draws hd
  have ho := outcome_step g (.move table p) s
  rw [Event.next, he]
  rw [he] at ho
  cases ho with
  | @moved s t active _ _ hsh hm hk =>
    refine ⟨hk table hm, fun _ => Registry.get?_insert_self .., fun hn => ?_, fun _ _ hp =>
      absurd rfl (hs.number_ne hp)⟩
    refine absurd ⟨ha, ?_⟩ hn
    by_cases hph : s.phase = .saving
    · exact .inr (if_pos hph)
    · exact .inl (if_neg hph)

/-- **No drag is lost.** A table that is dragged on the diagram on the canvas is there still after
any further events that do not override the drag: at its position on the canvas while its diagram is
on it, and else at its place in the diagram. -/
theorem drag_is_kept {g : Generator σ} (hg : g.Total) (seed : σ) (before after : List Event)
    {name table : String} {p : Position}
    (ha : (Session.run g (.start, seed) before).1.active = some name)
    (hm : (Event.move table p).draws g (Session.run g (.start, seed) before) = true)
    (hs : spared g name table (Session.run g (.start, seed) (before ++ [.move table p])) after
      = true) :
    let s := (Session.run g (.start, seed) (before ++ .move table p :: after)).1
    (s.active = some name → s.positions.get? table = some p) ∧
      (s.active ≠ some name → ∃ d, s.diagrams.get? name = some d ∧
        (d.select s.schema).get? table = some (some p)) := by
  have hsound := sound_run hg (s := (.start, seed)) Session.sound_start before
  have hstart := keeps_of_moves hsound ha hm
  rw [Session.run_append] at hs
  have hkeeps := keeps_run hg (sound_outcome hg hsound (outcome_step ..)) hstart hs
  rw [Session.run_append, Session.run_cons]
  refine ⟨hkeeps.shown, fun hne => ?_⟩
  obtain ⟨d, hd, hp⟩ := hkeeps.stored fun h => hne h.1
  exact ⟨d, hd, Diagram.get?_select_of_stored hkeeps.known hp⟩

/-- A drag during a save outlives the write, a switch to another diagram, and a refresh. -/
theorem drag_during_save_is_kept :
    let g := Generator.constant ⟨.whole 0, .whole 0⟩
    let text := "/* @erd-pets\n[main]\na.*\n[side]\n*/ CREATE TABLE a.b();"
    let before : List Event := [.load, .read (.ok text), .save]
    let after : List Event :=
      [.select "side", .write .written, .refresh, .read (.ok text), .save, .write .refused]
    let p : Position := ⟨.whole 10, .whole 20⟩
    (Session.run g (.start, ()) before).1.active = some "main" ∧
      (Event.move "a.b" p).draws g (Session.run g (.start, ()) before) = true ∧
      spared g "main" "a.b" (Session.run g (.start, ()) (before ++ [.move "a.b" p])) after = true ∧
      let s := (Session.run g (.start, ()) (before ++ .move "a.b" p :: after)).1
      (s.active = some "main" → s.positions.get? "a.b" = some p) ∧
        (s.active ≠ some "main" → ∃ d, s.diagrams.get? "main" = some d ∧
          (d.select s.schema).get? "a.b" = some (some p)) := by
  intro g text before after p
  have ha : (Session.run g (.start, ()) before).1.active = some "main" := by decide +kernel
  have hm : (Event.move "a.b" p).draws g (Session.run g (.start, ()) before) = true := by
    decide +kernel
  have hs : spared g "main" "a.b" (Session.run g (.start, ()) (before ++ [.move "a.b" p])) after
      = true := by decide +kernel
  exact ⟨ha, hm, hs, drag_is_kept (Generator.total_constant _) () before after ha hm hs⟩

end SchemaCanvas
