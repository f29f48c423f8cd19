import SchemaCanvas.Proofs.Picture.Agreeing
import SchemaCanvas.Proofs.Sync.Run

/-!
# The views of a session agree

A session keeps five views of one file: its schema, its diagrams, which of them is on the canvas,
the positions on the canvas, and the picture. Along every run with a total generator they agree
(`views_agree`): the positions are of the tables that the diagram on the canvas selects, in the same
order, the picture is drawn from them, and while the layout is as it was loaded or saved every place
that the diagram stores is on the canvas.

A save writes the positions into its own copy of the diagrams, which takes the place of the
session's when the write is done. `Session.Coherent` says of that copy that it records the positions
on the canvas, as long as no selection or move has superseded the save.
-/

namespace SchemaCanvas

variable {σ : Type}

namespace Session

/-- The diagram on the canvas as it is in a set of diagrams. -/
def OnCanvas (s : Session) (diagrams : DiagramSet) (d : Diagram) : Prop :=
  ∃ name, s.active = some name ∧ diagrams.get? name = some d

/-- A set of diagrams, each under its own name, whose diagram on the canvas records the positions
there. -/
structure Records (s : Session) (diagrams : DiagramSet) : Prop where
  named : diagrams.Named
  records : ∀ d, s.OnCanvas diagrams d → d.Records s.schema s.positions

/-- What holds of the views of a session along every run with a total generator. -/
structure Coherent (s : Session) : Prop where
  unloaded_iff : s.phase = .unloaded ↔ s.active = none
  mem_tablesIn : ∀ name, s.schema.contains name = true → name ∈ s.schema.tablesIn (schemaOf name)
  named : s.diagrams.Named
  picture_eq : s.picture = Picture.draw s.schema s.positions
  keys_eq : ∀ d, s.OnCanvas s.diagrams d → s.positions.keys = (d.select s.schema).keys
  agrees : s.phase = .loaded → ∀ d, s.OnCanvas s.diagrams d → d.Agrees s.schema s.positions
  active_ne : ∀ number diagrams text, s.pending = some (.save number diagrams text) →
    s.active ≠ none
  saves : ∀ diagrams text, s.pending = some (.save s.latest diagrams text) → s.Records diagrams

variable {s : Session}

/-- There is one diagram on the canvas, the one under the active name. -/
theorem OnCanvas.eq {diagrams : DiagramSet} {d d' : Diagram} (h : s.OnCanvas diagrams d)
    {name : String} (ha : s.active = some name) (hd' : diagrams.get? name = some d') : d = d' := by
  obtain ⟨name', ha', hd⟩ := h
  obtain rfl : name = name' := Option.some.inj (ha.symm.trans ha')
  exact Option.some.inj (hd.symm.trans hd')

/-- When a diagram is on the canvas there is an active name. -/
theorem Shows.active_ne {name : String} (h : s.Shows name) : s.active ≠ none := by
  rw [h.2]
  nofun

/-- At the start the views agree, since all of them are empty. -/
theorem coherent_start : start.Coherent where
  unloaded_iff := iff_of_true rfl rfl
  mem_tablesIn := nofun
  named := Registry.forall_empty
  picture_eq := rfl
  keys_eq := fun _ ⟨_, ha, _⟩ => nomatch ha
  agrees := nofun
  active_ne := nofun
  saves := nofun

/-- Only the number and the pending request change, and no save is the latest request. -/
theorem Coherent.of_pending (h : s.Coherent) {number : Nat} {pending : Option Pending}
    (hp : ∀ n diagrams text, pending = some (.save n diagrams text) →
      s.active ≠ none ∧ n ≠ number) :
    Coherent { s with latest := number, pending } :=
  { h with
    active_ne := fun n diagrams text he => (hp n diagrams text he).1
    saves := fun diagrams text he => absurd rfl (hp number diagrams text he).2 }

/-- One more selection or move supersedes a pending save. -/
theorem Coherent.counted (h : s.Coherent) (hs : s.Sound) : s.counted.Coherent :=
  h.of_pending fun n diagrams text he =>
    ⟨h.active_ne n diagrams text he, hs.number_ne (p := .save n diagrams text) he⟩

/-- A write that fails or comes late leaves what is on the canvas to be saved again. -/
theorem Coherent.dirtied (h : s.Coherent) (ha : s.active ≠ none) (text : String) :
    Coherent { s with pending := none, text, phase := .dirty } :=
  { h with
    unloaded_iff := iff_of_false nofun ha
    agrees := nofun
    active_ne := nofun
    saves := nofun }

/-- The positions of a diagram that agrees with them come on the canvas. -/
theorem Coherent.of_agrees {name : String} {d : Diagram} (hphase : s.phase ≠ .unloaded)
    (ha : s.active = some name) (hd : s.diagrams.get? name = some d)
    (hschema : ∀ name, s.schema.contains name = true → name ∈ s.schema.tablesIn (schemaOf name))
    (hnamed : s.diagrams.Named) (hpicture : s.picture = Picture.draw s.schema s.positions)
    (hagrees : d.Agrees s.schema s.positions)
    (hpending : ∀ diagrams text, s.pending ≠ some (.save s.latest diagrams text)) :
    s.Coherent where
  unloaded_iff := iff_of_false hphase (by rw [ha]; nofun)
  mem_tablesIn := hschema
  named := hnamed
  picture_eq := hpicture
  keys_eq _ hd' := hd'.eq ha hd ▸ hagrees.keys_eq
  agrees _ _ hd' := hd'.eq ha hd ▸ hagrees
  active_ne _ _ _ _ := by rw [ha]; nofun
  saves diagrams text hp := absurd hp (hpending diagrams text)

/-- What is committed records the positions on the canvas. -/
theorem Coherent.commits (h : s.Coherent) {diagrams : DiagramSet} (hc : s.Commits diagrams) :
    s.Records diagrams := by
  unfold Commits at hc
  split at hc
  · next ha =>
    subst hc
    refine ⟨h.named, fun d ⟨name, hname, _⟩ => ?_⟩
    rw [ha] at hname
    cases hname
  · next active ha =>
    obtain ⟨d, hd, rfl⟩ := hc
    refine ⟨h.named.materialize hd _, fun d' hd' => ?_⟩
    rw [hd'.eq ha (Registry.get?_insert_self ..)]
    exact Diagram.records_materialize h.mem_tablesIn (h.keys_eq d ⟨active, ha, hd⟩)

/-- The diagrams that a selection goes on with stand under their own names. -/
theorem Coherent.named_of_leaves (h : s.Coherent) {diagrams : DiagramSet}
    (hl : s.Leaves diagrams) : diagrams.Named := by
  rcases hl with ⟨-, hc⟩ | ⟨-, rfl⟩
  · exact (h.commits hc).named
  · exact h.named

/-- Filling in keeps what a set of diagrams records. -/
theorem Records.of_fill {diagrams filled : DiagramSet} (h : s.Records diagrams) {g : Generator σ}
    {t t' : σ} (hf : diagrams.fill g t = .ok filled t') : s.Records filled where
  named := h.named.of_fill hf
  records d' := by
    rintro ⟨name, ha, hd'⟩
    obtain ⟨d, u, v, hd, hfill⟩ := DiagramSet.exists_of_get?_fill hf hd'
    exact (h.records d ⟨name, ha, hd⟩).of_fill hfill

end Session

open Session

/-- One step keeps the views of a session coherent. -/
theorem coherent_outcome {g : Generator σ} (hg : g.Total) {e : Event} {s : Session × σ}
    {r : Result σ} (hs : s.1.Sound) (h : s.1.Coherent) (ho : Outcome g e s r) :
    r.after.1.Coherent := by
  cases ho with
  | refused => exact h
  | startedLoad | startedRefresh => exact h.of_pending nofun
  | startedSave hshows _ hc hf =>
    have hrecords := (h.commits hc).of_fill hf
    exact { h with
      unloaded_iff := iff_of_false nofun hshows.active_ne
      agrees := nofun
      active_ne := fun _ _ _ _ => hshows.active_ne
      saves := fun diagrams text hp => by cases hp; exact ⟨hrecords.named, hrecords.records⟩ }
  | unsaved | uncommitted => exact h.counted hs
  | @selected s t t' active name diagrams picture hshows hn hl hr =>
    obtain ⟨d, positions, hd, hp, hdraw, rfl, -⟩ := DiagramSet.resolve_eq_ok hr
    exact .of_agrees hshows.1 rfl hd h.mem_tablesIn (h.named_of_leaves hl) hdraw
      (Diagram.agrees_of_place hp) fun _ _ he => hs.number_ne he rfl
  | unplaced _ hn hl hr => exact absurd hr (DiagramSet.resolve_ne_error (hl.keys ▸ hn) hg)
  | @moved s t name table position hshows hm hk =>
    have hkeys : (s.positions.insert table position).keys = s.positions.keys := by
      rw [Registry.keys_insert, if_pos hm]
    exact { h.counted hs with
      unloaded_iff := iff_of_false (by dsimp only [Result.after]; split <;> nofun) hshows.active_ne
      picture_eq := rfl
      keys_eq := fun d hd => hkeys.trans (h.keys_eq d hd)
      agrees := by dsimp only [Result.after]; split <;> nofun
      saves := fun _ _ he => absurd rfl (hs.number_ne he) }
  | strayed _ _ ho hc =>
    have := hs.known _ ho
    rw [hc] at this
    cases this
  | unread | discarded => exact h.of_pending nofun
  | loaded hp hf hn hr =>
    obtain ⟨d, positions, hd, hp, hdraw, rfl, -⟩ := DiagramSet.resolve_eq_ok hr
    have hschema := (Loaded.ofText_eq_ok hf).1
    exact .of_agrees nofun rfl hd (hschema ▸ fun _ => Schema.mem_tablesIn_schemaOf)
      (Loaded.named_ofText hf) hdraw (Diagram.agrees_of_place hp) nofun
  | unshown hp hf hn hr =>
    have hmem := headD_mem (Loaded.keys_ne_nil hf) defaultDiagramName
    exact absurd hr (DiagramSet.resolve_ne_error (hn ▸ hmem) hg)
  | @refreshed s t t' text name previous diagrams schema warnings picture hp hc hsc hr =>
    have hnamed := (h.commits hc).named.of_refresh hr
    obtain ⟨d, positions, hd, hpl, hdraw, rfl, -, rfl⟩ := DiagramSet.refresh_eq_ok hr
    have ha := hs.refresh_active name hp
    have htext : schema = (Schema.ofText text).1 := by rw [(Schema.ofText?_eq_ok.1 hsc).1]
    have hschema : ∀ table, schema.contains table = true →
        table ∈ schema.tablesIn (schemaOf table) :=
      htext ▸ fun _ => Schema.mem_tablesIn_schemaOf
    have hrecords := Diagram.records_materialize hschema (Selection.keys_place hpl)
    refine .of_agrees ?_ ha (Registry.get?_insert_self ..) hschema hnamed hdraw hrecords.agrees
      nofun
    have hloaded : s.phase ≠ .unloaded := fun hu => by
      rw [h.unloaded_iff.1 hu] at ha
      cases ha
    dsimp only [Result.after, showing]
    split
    · exact hloaded
    · nofun
  | @unwritten s t number diagrams text outcome cause hp hne =>
    exact h.dirtied (h.active_ne number diagrams text hp) s.text
  | @written s t diagrams text hp =>
    obtain ⟨name, ha⟩ := Option.ne_none_iff_exists'.1 (h.active_ne _ _ _ hp)
    obtain ⟨d, hd⟩ := Registry.exists_get? (hs.save_active diagrams text name hp ha)
    have hrecords := h.saves diagrams text hp
    exact .of_agrees nofun ha hd h.mem_tablesIn hrecords.named h.picture_eq
      (hrecords.records d ⟨name, ha, hd⟩).agrees nofun
  | writtenLate hp hne => exact h.dirtied (h.active_ne _ _ _ hp) _

/-- A whole run keeps the views of a session coherent. -/
theorem coherent_run {g : Generator σ} (hg : g.Total) {s : Session × σ} (hs : s.1.Sound)
    (h : s.1.Coherent) (events : List Event) : (run g s events).1.Coherent := by
  induction events generalizing s with
  | nil => exact h
  | cons e events ih =>
    have ho := outcome_step g e s
    exact ih (sound_outcome hg hs ho) (coherent_outcome hg hs h ho)

/-- **The views of a session agree.** After every run with a total generator: nothing is on the
canvas just when no file has been loaded; every diagram stands under its own name; the diagram on
the canvas is one of them, and the positions are of the tables that it selects, in the same order;
while the layout is as it was loaded or saved, of the places that it stores those of tables of the
schema are on the canvas; and the picture is drawn from the schema and the positions. -/
theorem views_agree {g : Generator σ} (hg : g.Total) (seed : σ) (events : List Event) :
    let s := (run g (start, seed) events).1
    (s.phase = .unloaded ↔ s.active = none) ∧
    (∀ name d, s.diagrams.get? name = some d → d.name = name) ∧
    (∀ name, s.active = some name → ∃ d, s.diagrams.get? name = some d ∧
      s.positions.keys = (d.select s.schema).keys ∧
      (s.phase = .loaded → ∀ table p, d.stored.get? table = some p →
        s.positions.get? table = if s.schema.contains table then some p else none)) ∧
    s.picture = Picture.draw s.schema s.positions ∧ s.picture.positions = s.positions := by
  intro s
  have hs : s.Sound := sound_run hg sound_start events
  have h : s.Coherent := coherent_run hg sound_start coherent_start events
  refine ⟨h.unloaded_iff, h.named, fun name ha => ?_, h.picture_eq, ?_⟩
  · obtain ⟨d, hd⟩ := Registry.exists_get? (hs.active_mem name ha)
    have hcanvas : s.OnCanvas s.diagrams d := ⟨name, ha, hd⟩
    exact ⟨d, hd, h.keys_eq d hcanvas, fun hl _ _ hp => (h.agrees hl d hcanvas).get?_of_stored hp⟩
  · rw [h.picture_eq]
    exact Picture.positions_draw hs.known

/-- The views after a drag has been saved, in a file that stores a place of a table that is gone. -/
theorem views_agree_after_save :
    let g := Generator.constant ⟨.whole 0, .whole 0⟩
    let text := "/* @erd-pets\n[main]\na.gone 3 4\na.*\n*/ CREATE TABLE a.b(); CREATE TABLE a.c();"
    let p : Position := ⟨.whole 5, .whole 6⟩
    let s := (run g (start, ()) [.load, .read (.ok text), .move "a.c" p, .save, .write .written]).1
    g.Total ∧ s.phase = .loaded ∧ s.positions.get? "a.c" = some p ∧
    (s.phase = .unloaded ↔ s.active = none) ∧
    (∀ name d, s.diagrams.get? name = some d → d.name = name) ∧
    (∀ name, s.active = some name → ∃ d, s.diagrams.get? name = some d ∧
      s.positions.keys = (d.select s.schema).keys ∧
      (s.phase = .loaded → ∀ table p, d.stored.get? table = some p →
        s.positions.get? table = if s.schema.contains table then some p else none)) ∧
    s.picture = Picture.draw s.schema s.positions ∧ s.picture.positions = s.positions := by
  intro g text p s
  have hg : g.Total := Generator.total_constant _
  obtain ⟨hloaded, hmoved⟩ : s.phase = .loaded ∧ s.positions.get? "a.c" = some p := by
    decide +kernel
  exact ⟨hg, hloaded, hmoved, views_agree hg () _⟩

end SchemaCanvas
