import SchemaCanvas.Proofs.Sync.Superseded

/-!
# Requests that are answered at once

When the host answers a request with the text of the file before anything else happens, the session
takes the file over (`finishRead_of_load`) or brings the diagram on the canvas in step with it
(`finishRead_of_refresh`), as far as the tables can be placed. A save whose write the host makes at
once ends with the text of its diagrams, or fails like the computation of this text
(`save_of_commits`).
-/

namespace SchemaCanvas

/-- The text with the diagrams in its block, after each of their tables has been given a place. -/
def DiagramSet.saveFilled {σ : Type} (diagrams : DiagramSet) (text : String) (g : Generator σ) :
    Placing σ String := do
  let filled ← diagrams.fill g
  Placing.save text filled

/-- A save asks for no place, so it succeeds exactly if the diagrams can be put into the text. -/
theorem Placing.save_eq_ok {σ : Type} {text saved : String} {diagrams : DiagramSet} {s t : σ} :
    Placing.save text diagrams s = .ok saved t ↔ Block.save text diagrams = .ok saved ∧ t = s := by
  rw [Placing.save]
  constructor
  · intro h
    split at h
    · next hsave =>
      cases h
      exact ⟨hsave, rfl⟩
    · cases h
  · rintro ⟨hsave, rfl⟩
    rw [hsave]

/-- Filling in the places and saving succeeds exactly if both do, one after the other. -/
theorem DiagramSet.saveFilled_eq_ok {σ : Type} {diagrams : DiagramSet} {text saved : String}
    {g : Generator σ} {s t : σ} : diagrams.saveFilled text g s = .ok saved t ↔
      ∃ filled, diagrams.fill g s = .ok filled t ∧ Block.save text filled = .ok saved := by
  constructor
  · intro h
    obtain ⟨filled, u, hfill, hsave⟩ := bind_eq_ok.1 h
    obtain ⟨hblock, rfl⟩ := Placing.save_eq_ok.1 hsave
    exact ⟨filled, hfill, hblock⟩
  · rintro ⟨filled, hfill, hsave⟩
    exact bind_eq_ok.2 ⟨filled, t, hfill, Placing.save_eq_ok.2 ⟨hsave, rfl⟩⟩

namespace Session

variable {σ : Type} {g : Generator σ} {s : Session} {t t' : σ}

/-- A load takes the file over and shows its first diagram. -/
theorem finishRead_of_load (hp : s.pending = some (.load s.latest)) {text : String} {file : Loaded}
    (hf : Loaded.ofText text = .ok file) {picture : Picture}
    (hr : file.diagrams.resolve (file.diagrams.keys.headD defaultDiagramName) file.schema g t
      = .ok picture t') :
    finishRead g (.ok text) (s, t) = .ok (some picture)
      ({ (({ s with pending := none } : Session).takingOver text file).showing picture with
        phase := .loaded }, t') := by
  have ho : Outcome g (.read (.ok text)) (s, t) (finishRead g (.ok text) (s, t)) :=
    outcome_step g (.read (.ok text)) (s, t)
  generalize finishRead g (.ok text) (s, t) = r at ho ⊢
  cases ho with
  | refused hrefusal =>
    cases hrefusal with
    | unread hn => exact absurd (.inl hp) (hn s.latest)
    | notLoaded hneeds => cases hneeds
    | busy r he => cases r <;> cases he
  | unread _ _ hrejects => exact absurd hf (hrejects hp text file rfl)
  | discarded hw hn =>
    rcases hw with hload | ⟨name, hrefresh⟩
    · rw [hp] at hload
      cases hload
      exact absurd rfl hn
    · rw [hp] at hrefresh
      cases hrefresh
  | loaded _ hf' hname hr' =>
    rw [hf] at hf'
    cases hf'
    rw [hname, hr] at hr'
    cases hr'
    rw [hname]
    rfl
  | unshown _ hf' hname hr' =>
    rw [hf] at hf'
    cases hf'
    rw [hname, hr] at hr'
    cases hr'
  | refreshed hp' =>
    rw [hp] at hp'
    cases hp'

/-- A refresh brings the diagram on the canvas in step with the newer text. -/
theorem finishRead_of_refresh {name text : String} {previous diagrams : DiagramSet}
    {schema : Schema} {warnings : List Warning} {picture : Picture}
    (hp : s.pending = some (.refresh s.latest name)) (hc : s.Commits previous)
    (hs : Schema.ofText? text = .ok (schema, warnings))
    (hr : previous.refresh name schema g t = .ok (picture, diagrams) t') :
    finishRead g (.ok text) (s, t) = .ok (some picture)
      (({ s with
        pending := none, text, schema, diagrams, warnings := Warning.byLine warnings
        phase := if diagrams.same previous then s.phase else .dirty } : Session).showing
          picture, t') := by
  have hcommitted : committed (({ s with pending := none } : Session), t)
      = .ok previous ({ s with pending := none }, t) :=
    committed_of_commits (s := { s with pending := none }) hc
  unfold finishRead
  rw [current_bind, hp]
  dsimp only
  rw [become_bind, if_pos rfl]
  exact bind_of_ok (renew_of_committed hcommitted hs hr)

/-- A selection turns to the diagram as soon as its tables can be placed. -/
theorem select_of_leaves {active name : String} {diagrams : DiagramSet} {picture : Picture}
    (hs : s.Shows active) (hn : name ∈ s.diagrams.keys) (hl : s.Leaves diagrams)
    (hr : diagrams.resolve name s.schema g t = .ok picture t') :
    select g name (s, t)
      = .ok picture ((s.counted.turningTo name diagrams).showing picture, t') := by
  obtain ⟨shown, after, hselect, hshown⟩ := bind_eq_ok.1 (step_select_of_leaves hs hn hl hr)
  cases hshown
  exact hselect

/-- A save whose write the host makes at once ends with the text of the diagrams, each table of
which has been given a place, or fails like the computation of this text. -/
theorem save_of_commits {name : String} {diagrams : DiagramSet} (hs : s.Shows name)
    (hi : s.pending = none) (hc : s.Commits diagrams) :
    let save : Step σ String := do
      let _ ← startSave g
      finishWrite .written
    (∃ text t' s', diagrams.saveFilled s.text g t = .ok text t' ∧
        save (s, t) = .ok text (s', t')) ∨
      ∃ cause t', diagrams.saveFilled s.text g t = .error cause t' ∧
        save (s, t) = .error (.file (.layout cause)) (s.counted, t') := by
  intro save
  have hstart := startSave_of_commits (g := g) (t := t) hs hi hc
  cases hf : diagrams.fill g t with
  | error cause t' =>
    have hfail := hstart.trans (bind_of_error (placing_of_error (s := s.counted) hf))
    exact .inr ⟨cause, t', bind_of_error hf, bind_of_error hfail⟩
  | ok filled t' =>
    have hwritten : diagrams.saveFilled s.text g t = Placing.save s.text filled t' := bind_of_ok hf
    cases hb : Block.save s.text filled with
    | error cause =>
      have hsave : Placing.save s.text filled t' = .error cause t' := by rw [Placing.save, hb]
      have hfail := hstart.trans ((bind_of_ok (placing_of_ok (s := s.counted) hf)).trans
        (bind_of_error (placing_of_error (s := s.counted) hsave)))
      exact .inr ⟨cause, t', hwritten.trans hsave, bind_of_error hfail⟩
    | ok text =>
      have hsaved : diagrams.saveFilled s.text g t = .ok text t' :=
        DiagramSet.saveFilled_eq_ok.2 ⟨filled, hf, hb⟩
      have hready := startSave_of_ready hs hi hc hf hb
      rcases finishWrite_of_saving (s := s.saving filled text) (t := t') rfl .written with
        ⟨-, hfinish⟩ | ⟨hne, -⟩
      · exact .inl ⟨text, t', _, hsaved, (bind_of_ok hready).trans hfinish⟩
      · exact absurd rfl hne

end Session

end SchemaCanvas
