import SchemaCanvas.Proofs.Picture.Placing
import SchemaCanvas.Proofs.Sync.Run

/-!
# Loads and selections that fail

A load or a selection that fails ought to leave the session as it was. It does whenever it fails
before it takes anything over: the host has no text, the text cannot be read as a file, or there is
no such diagram to select. But both take their data over before the tables are placed, so when the
generator fails the session is left with the new data and the old positions, picture and phase
(`load_eq_error`, `select_eq_error`). `failure_unchanged_iff` says exactly when nothing changes;
with a total generator that is always so.
-/

namespace SchemaCanvas

variable {σ : Type} {g : Generator σ}

namespace Session

/-- A load from its start to its end, with the answer of the host in between. -/
def load (g : Generator σ) (answer : Except String String) : Step σ (Option Picture) := do
  startLoad
  finishRead g answer

/-- The session after a step is the one before, but for the number of the latest request. -/
def Unchanged (s s' : Session) : Prop :=
  { s' with latest := s.latest } = s

/-- The session with what a load takes over of a text before it places the tables. -/
def takingOver (s : Session) (text : String) (file : Loaded) : Session :=
  { s with
    text
    schema := file.schema
    diagrams := file.diagrams
    warnings := file.warnings
    active := some (file.diagrams.keys.headD defaultDiagramName) }

/-- The session with what a selection changes before it places the tables. -/
def turningTo (s : Session) (name : String) (diagrams : DiagramSet) : Session :=
  { s with diagrams, active := some name }

variable {s s' : Session} {t t' : σ} {cause : SessionError}

/-- A session that stays is unchanged. -/
theorem unchanged_self (s : Session) : s.Unchanged s := rfl

/-- A request that is only counted leaves the session unchanged. -/
theorem unchanged_counted (s : Session) : s.Unchanged s.counted := rfl

/-- Taking over a text leaves the session unchanged exactly if it held all of that already. -/
theorem unchanged_takingOver_iff {text : String} {file : Loaded} :
    s.Unchanged (s.counted.takingOver text file) ↔ s.takingOver text file = s :=
  Iff.rfl

/-- Turning to a diagram leaves the session unchanged exactly if it showed that already. -/
theorem unchanged_turningTo_iff {name : String} {diagrams : DiagramSet} :
    s.Unchanged (s.counted.turningTo name diagrams) ↔ s.turningTo name diagrams = s :=
  Iff.rfl

/-! ## Loads -/

/-- A load of an idle session ends with the answer to the request that it starts. -/
theorem load_of_idle (hi : s.pending = none) (answer : Except String String) :
    load g answer (s, t)
      = Event.step g (.read answer)
          ({ s.counted with pending := some (.load s.counted.latest) }, t) := by
  rcases requireIdle_cases (s := s) (t := t) .load with ⟨-, h⟩ | ⟨hb, -⟩
  · exact bind_of_ok (show startLoad (s, t) = .ok () _ from bind_of_ok h)
  · exact absurd hi hb

/-- A load fails when there is no file to take over, and then it only counts, or when the tables of
the file cannot be placed, and then the file has been taken over. -/
theorem load_eq_error (hi : s.pending = none) {answer : Except String String}
    (h : load g answer (s, t) = .error cause (s', t')) :
    (s' = s.counted ∧ ∀ text file, answer = .ok text → Loaded.ofText text ≠ .ok file) ∨
      ∃ text file name u, answer = .ok text ∧ Loaded.ofText text = .ok file ∧
        name ∈ file.diagrams.keys ∧ file.diagrams.resolve name file.schema g t = .error u t' ∧
        s' = s.counted.takingOver text file := by
  rw [load_of_idle hi] at h
  have ho := outcome_step g (.read answer)
    ({ s.counted with pending := some (.load s.counted.latest) }, t)
  rw [h] at ho
  cases ho with
  | refused hr =>
    cases hr with
    | unread hn => exact absurd (.inl rfl) (hn s.counted.latest)
    | notLoaded hneeds => cases hneeds
    | busy r he => cases r <;> cases he
  | unread _ _ hrejects => exact .inl ⟨by rw [← hi]; rfl, hrejects rfl⟩
  | unshown hp hf hn hr =>
    have hname := headD_mem (Loaded.keys_ne_nil hf) defaultDiagramName
    exact .inr ⟨_, _, _, _, rfl, hf, hname, hn ▸ hr, by rw [← hi, hn]; rfl⟩

/-! ## Selections -/

/-- There is one set of committed diagrams at most. -/
theorem Commits.eq {diagrams diagrams' : DiagramSet} (h : s.Commits diagrams)
    (h' : s.Commits diagrams') : diagrams = diagrams' := by
  unfold Commits at h h'
  cases ha : s.active with
  | none =>
    rw [ha] at h h'
    exact h.trans h'.symm
  | some active =>
    rw [ha] at h h'
    obtain ⟨d, hd, rfl⟩ := h
    obtain ⟨d', hd', rfl⟩ := h'
    rw [hd] at hd'
    rw [Option.some.inj hd']

/-- A selection can go on with one set of diagrams at most. -/
theorem Leaves.eq {diagrams diagrams' : DiagramSet} (h : s.Leaves diagrams)
    (h' : s.Leaves diagrams') : diagrams = diagrams' := by
  rcases h with ⟨hp, hc⟩ | ⟨hp, rfl⟩
  · rcases h' with ⟨-, hc'⟩ | ⟨hp', -⟩
    · exact hc.eq hc'
    · exact absurd hp hp'
  · rcases h' with ⟨hp', -⟩ | ⟨-, rfl⟩
    · exact absurd hp' hp
    · rfl

/-- A selection that fails has nothing to go on with, and then nothing changes, or the tables of the
diagram cannot be placed, and then the session has turned to it. -/
theorem select_eq_error {name : String} (h : select g name (s, t) = .error cause (s', t')) :
    (s.Unchanged s' ∧ ∀ active diagrams, s.Shows active → name ∈ s.diagrams.keys →
        ¬ s.Leaves diagrams) ∨
      ∃ active diagrams u, s.Shows active ∧ name ∈ s.diagrams.keys ∧ s.Leaves diagrams ∧
        diagrams.resolve name s.schema g t = .error u t' ∧
        s' = s.counted.turningTo name diagrams := by
  have ho := outcome_step g (.select name) (s, t)
  rw [show Event.step g (.select name) (s, t) = .error cause (s', t') from bind_of_error h] at ho
  cases ho with
  | refused hr =>
    refine .inl ⟨unchanged_self s, fun active diagrams hs hn _ => ?_⟩
    cases hr with
    | notLoaded _ hu => exact hu active hs
    | unknownDiagram hm => exact hm hn
    | busy r he => cases r <;> cases he
  | uncommitted _ hshows hphase hm =>
    refine .inl ⟨unchanged_counted s, fun active diagrams _ _ hl => ?_⟩
    rcases hl with ⟨-, hc⟩ | ⟨hp, -⟩
    · unfold Commits at hc
      rw [hshows.2] at hc
      obtain ⟨d, hd, -⟩ := hc
      exact hm (Registry.mem_keys_of_get? hd)
    · exact hp hphase
  | unplaced hshows hn hl hr => exact .inr ⟨_, _, _, hshows, hn, hl, hr, rfl⟩

/-! ## When nothing changes -/

/-- A load that fails leaves the session unchanged exactly if it brought no file to take over, or
one that the session held already. -/
theorem load_unchanged_iff (hi : s.pending = none) {answer : Except String String}
    (h : load g answer (s, t) = .error cause (s', t')) :
    s.Unchanged s' ↔ ∀ text file, answer = .ok text → Loaded.ofText text = .ok file →
      s.takingOver text file = s := by
  rcases load_eq_error hi h with ⟨rfl, hnone⟩ | ⟨text, file, name, u, rfl, hf, hn, hr, rfl⟩
  · exact iff_of_true (unchanged_counted s) fun text file ha hf => absurd hf (hnone text file ha)
  · rw [unchanged_takingOver_iff]
    refine ⟨fun hsame text' file' ha hf' => ?_, fun hall => hall text file rfl hf⟩
    cases ha
    rw [hf] at hf'
    rwa [← Except.ok.inj hf']

/-- A selection that fails leaves the session unchanged exactly if there was no such diagram to turn
to, or the session showed it already. -/
theorem select_unchanged_iff {name : String} (h : select g name (s, t) = .error cause (s', t')) :
    s.Unchanged s' ↔ ∀ active diagrams, s.Shows active → name ∈ s.diagrams.keys →
      s.Leaves diagrams → s.turningTo name diagrams = s := by
  rcases select_eq_error h with ⟨hsame, hnone⟩ | ⟨active, diagrams, u, hs, hn, hl, hr, rfl⟩
  · exact iff_of_true hsame fun active diagrams hs hn hl =>
      absurd hl (hnone active diagrams hs hn)
  · rw [unchanged_turningTo_iff]
    refine ⟨fun hsame _ diagrams' _ _ hl' => ?_, fun hall => hall active diagrams hs hn hl⟩
    rwa [← hl.eq hl']

/-- With a total generator a load fails only when there is no file to take over. -/
theorem load_unchanged_of_total (hg : g.Total) (hi : s.pending = none)
    {answer : Except String String} (h : load g answer (s, t) = .error cause (s', t')) :
    s.Unchanged s' := by
  rcases load_eq_error hi h with ⟨rfl, -⟩ | ⟨text, file, name, u, rfl, hf, hn, hr, rfl⟩
  · exact unchanged_counted s
  · exact absurd hr (DiagramSet.resolve_ne_error hn hg)

/-- With a total generator a selection fails only when it has nothing to go on with. -/
theorem select_unchanged_of_total (hg : g.Total) {name : String}
    (h : select g name (s, t) = .error cause (s', t')) : s.Unchanged s' := by
  rcases select_eq_error h with ⟨hsame, -⟩ | ⟨active, diagrams, u, hs, hn, hl, hr, rfl⟩
  · exact hsame
  · exact absurd hr (DiagramSet.resolve_ne_error (hl.keys ▸ hn) hg)

/-- **What a failing load or selection leaves.** In a session in which nothing is pending, a load
that fails changes nothing just when the text, if it can be read as a file, is the one that the
session holds with its schema, diagrams and warnings, and its first diagram is on the canvas. A
selection that fails changes nothing just when it has nothing to go on with or goes on with the
diagrams as they are and the diagram that is on the canvas. With a total generator neither ever
changes anything. -/
theorem failure_unchanged_iff {s : Session} (hi : s.pending = none) (t : σ) (g : Generator σ) :
    (∀ answer cause s' t', load g answer (s, t) = .error cause (s', t') →
      (s.Unchanged s' ↔ ∀ text file, answer = .ok text → Loaded.ofText text = .ok file →
        s.takingOver text file = s)) ∧
    (∀ name cause s' t', select g name (s, t) = .error cause (s', t') →
      (s.Unchanged s' ↔ ∀ active diagrams, s.Shows active → name ∈ s.diagrams.keys →
        s.Leaves diagrams → s.turningTo name diagrams = s)) ∧
    (g.Total →
      (∀ answer cause s' t', load g answer (s, t) = .error cause (s', t') → s.Unchanged s') ∧
      (∀ name cause s' t', select g name (s, t) = .error cause (s', t') → s.Unchanged s')) :=
  ⟨fun _ _ _ _ => load_unchanged_iff hi, fun _ _ _ _ => select_unchanged_iff, fun hg =>
    ⟨fun _ _ _ _ => load_unchanged_of_total hg hi, fun _ _ _ _ => select_unchanged_of_total hg⟩⟩

/-- Whether a step fails. -/
def fails {α : Type} (step : Step σ α) (s : Session × σ) : Bool :=
  match step s with
  | .ok .. => false
  | .error .. => true

/-- A step that fails ends with a cause. -/
theorem exists_of_fails {α : Type} (step : Step σ α) (s : Session × σ)
    (h : fails step s = true) : ∃ cause s' t', step s = .error cause (s', t') := by
  unfold fails at h
  split at h
  · cases h
  · next cause after he => exact ⟨cause, after.1, after.2, he⟩

/-- With a generator that places nothing, the selection of a diagram and the load of another text
both fail, and both leave the session with something new. -/
theorem failures_change_session :
    let g : Generator Unit := fun _ _ => pure ∅
    let text :=
      "/* @erd-pets\n[main]\na.b 1 2\n[side]\na.c\n*/ CREATE TABLE a.b(); CREATE TABLE a.c();"
    let other := "CREATE TABLE a.b();"
    let s := (run g (start, ()) [.load, .read (.ok text)]).1
    s.pending = none ∧
    (∃ cause s' t', load g (.ok other) (s, ()) = .error cause (s', t') ∧ ¬ s.Unchanged s') ∧
    ∃ cause s' t', select g "side" (s, ()) = .error cause (s', t') ∧ ¬ s.Unchanged s' := by
  intro g text other s
  obtain ⟨hi, htext, hloaded, hactive, hside⟩ : s.pending = none ∧ s.text ≠ other ∧
      s.phase = .loaded ∧ s.active = some "main" ∧ "side" ∈ s.diagrams.keys := by decide +kernel
  have hshows : s.Shows "main" := ⟨by rw [hloaded]; nofun, hactive⟩
  have hleaves : s.Leaves s.diagrams := .inr ⟨by rw [hloaded]; nofun, rfl⟩
  obtain ⟨hload, hselect, -⟩ := failure_unchanged_iff hi () g
  refine ⟨hi, ?_, ?_⟩
  · obtain ⟨cause, s', t', h⟩ := exists_of_fails (load g (.ok other)) (s, ()) (by decide +kernel)
    refine ⟨cause, s', t', h, fun hsame => htext ?_⟩
    have hok : (Loaded.ofText other).isOk = true := by decide +kernel
    cases hf : Loaded.ofText other with
    | ok file =>
      have hheld := (hload _ cause s' t' h).1 hsame other file rfl hf
      exact (congrArg Session.text hheld).symm
    | error cause =>
      rw [hf] at hok
      cases hok
  · obtain ⟨cause, s', t', h⟩ := exists_of_fails (select g "side") (s, ()) (by decide +kernel)
    refine ⟨cause, s', t', h, fun hsame => ?_⟩
    have hheld := (hselect _ cause s' t' h).1 hsame "main" s.diagrams hshows hside hleaves
    have hnow := congrArg Session.active hheld
    rw [hactive] at hnow
    exact absurd (Option.some.inj hnow) (by decide)

end Session

end SchemaCanvas
