import SchemaCanvas.Proofs.Layout.Rounded
import SchemaCanvas.Proofs.Sync.Fitting

/-!
# Layouts that count as clean

A session counts its layout as clean after a load or a save: then the text holds its diagrams
(`Block.Holds`). A refresh, however, compares the refreshed diagrams with those that it went out
from, and not with the block of the text that it takes over. It goes out from the diagrams with the
places on the canvas written into them, which are in no file yet, and the block may have been
changed since. So the layout still counts as clean then, and is clean just when the text holds the
diagrams that the refresh went out from (`clean_iff`).
-/

namespace SchemaCanvas

open Session

variable {σ : Type} {g : Generator σ}

/-! ## What a text holds -/

/-- Whether the diagrams in the block of a text, if there are any, are these to whole pixels. -/
def Block.Holds (text : String) (diagrams : DiagramSet) : Prop :=
  ∀ stored ws, Block.readText text = .ok (some stored, ws) → stored.items ≠ [] →
    stored.rounded = diagrams.rounded

namespace Block

variable {text saved : String} {diagrams previous : DiagramSet}

/-- A file that can be opened holds the diagrams that are read from it. -/
theorem holds_ofText {file : Loaded} (h : Loaded.ofText text = .ok file) :
    Holds text file.diagrams := by
  intro stored ws hread hne
  obtain ⟨-, -, block, more, hblock, ⟨rfl, -⟩ | ⟨hempty, -⟩⟩ := Loaded.ofText_eq_ok h
  · rw [hread] at hblock
    cases hblock
    rfl
  · rw [hread] at hblock
    cases hblock
    exact absurd (hempty stored rfl) hne

/-- A saved text holds the diagrams that were saved, when they come back from their block. -/
theorem holds_save (h : save text diagrams = .ok saved) (hd : diagrams.Fit) :
    Holds saved diagrams := by
  intro stored ws hread _
  obtain ⟨diagrams', more, hsaved, hreread⟩ := readText_save h hd
  rw [hread] at hsaved
  cases hsaved
  exact hreread.rounded_eq hd.fromLines

/-- A text holds diagrams exactly if it holds others that count as the same. -/
theorem holds_congr (h : diagrams.same previous = true) :
    Holds text diagrams ↔ Holds text previous := by
  rw [Holds, Holds, DiagramSet.rounded_eq_of_same h]

end Block

/-! ## What a refresh goes out from -/

/-- The diagrams with the places on the canvas written into the diagram on it. -/
def Session.committed? (s : Session) : Option DiagramSet :=
  match s.active with
  | none => some s.diagrams
  | some name => (s.diagrams.get? name).map fun d =>
      s.diagrams.insert name (d.materialize s.positions)

/-- The diagrams with the places on the canvas are the committed ones. -/
theorem Session.Commits.committed? {s : Session} {diagrams : DiagramSet} (h : s.Commits diagrams) :
    s.committed? = some diagrams := by
  unfold Commits at h
  cases ha : s.active with
  | none =>
    rw [ha] at h
    simp only [Session.committed?, ha, h]
  | some name =>
    rw [ha] at h
    obtain ⟨d, hd, rfl⟩ := h
    simp only [Session.committed?, ha, hd, Option.map_some]

/-- The diagrams that the last refresh went out from, after an event with the given result. A load
and a save begin anew. -/
def Event.refreshedFrom (r : Result σ) (s : Session) (e : Event) (before : Option DiagramSet) :
    Option DiagramSet :=
  match e, r with
  | .read _, .ok (some _) _ =>
    match s.pending with
    | some (.refresh ..) => s.committed?
    | _ => none
  | .write _, .ok .. => none
  | _, _ => before

/-- The diagrams that the last refresh since the last load or save of a run went out from, given
those before the run. -/
def refreshedFrom (g : Generator σ) : Session × σ → Option DiagramSet → List Event →
    Option DiagramSet
  | _, before, [] => before
  | s, before, e :: events =>
    refreshedFrom g (e.next g s) (e.refreshedFrom (e.step g s) s.1 before) events

section
variable {s : Session} {after : Session × σ} {before : Option DiagramSet} {number : Nat}
variable {answer : Except String String} {picture : Picture}

/-- A step that fails leaves what the last refresh went out from. -/
theorem Event.refreshedFrom_error (e : Event) (cause : SessionError) :
    e.refreshedFrom (.error cause after) s before = before := by
  cases e <;> rfl

/-- A load that succeeds begins anew. -/
theorem Event.refreshedFrom_load (hp : s.pending = some (.load number)) :
    (Event.read answer).refreshedFrom (.ok (some picture) after) s before = none := by
  simp only [refreshedFrom, hp]

/-- A refresh that succeeds goes out from the committed diagrams. -/
theorem Event.refreshedFrom_refresh {name : String} (hp : s.pending = some (.refresh number name))
    {previous : DiagramSet} (hc : s.Commits previous) :
    (Event.read answer).refreshedFrom (.ok (some picture) after) s before = some previous := by
  simp only [refreshedFrom, hp, hc.committed?]

end

/-! ## Runs -/

namespace Session

/-- What is known of a layout that counts as clean, given what the last refresh went out from: the
text holds the diagrams, or they are the same as those. -/
def Clean (s : Session) (before : Option DiagramSet) : Prop :=
  s.phase = .loaded →
    match before with
    | none => Block.Holds s.text s.diagrams
    | some previous => s.diagrams.same previous = true

variable {s s' : Session} {before : Option DiagramSet}

/-- A session without a loaded file, or one that is saving, counts no layout as clean. -/
theorem Clean.of_phase (h : s.phase ≠ .loaded) : s.Clean before :=
  fun hp => absurd hp h

/-- As much is known of a session with the same text, phase and diagrams. -/
theorem Clean.of_eq (h : s.Clean before) (hphase : s'.phase = s.phase) (htext : s'.text = s.text)
    (hdiagrams : s.phase = .loaded → s'.diagrams = s.diagrams) : s'.Clean before := by
  intro hp
  rw [hphase] at hp
  rw [htext, hdiagrams hp]
  exact h hp

/-- The session at the start has no file, and counts no layout as clean. -/
theorem clean_start : start.Clean none :=
  .of_phase nofun

/-- A selection leaves the diagrams of a clean layout alone. -/
theorem Leaves.eq_of_loaded {diagrams : DiagramSet} (h : s.Leaves diagrams)
    (hp : s.phase = .loaded) : diagrams = s.diagrams := by
  rcases h with ⟨hedited, -⟩ | ⟨-, rfl⟩
  · rw [hp] at hedited
    rcases hedited with hdirty | hsaving
    · cases hdirty
    · cases hsaving
  · rfl

end Session

/-- One step keeps what is known of clean layouts in step with the session. -/
theorem clean_outcome (hg : g.Total) {e : Event} {s : Session × σ} {r : Result σ}
    {before : Option DiagramSet} (h : s.1.Clean before) (hf : s.1.Fit) (ho : Outcome g e s r) :
    r.after.1.Clean (e.refreshedFrom r s.1 before) := by
  cases ho with
  | refused =>
    rw [Event.refreshedFrom_error]
    exact h
  | startedLoad | startedRefresh | unsaved | uncommitted | strayed =>
    exact h.of_eq rfl rfl fun _ => rfl
  | startedSave => exact .of_phase nofun
  | selected _ _ hl => exact h.of_eq rfl rfl hl.eq_of_loaded
  | unplaced _ hn hl hr => exact absurd hr (DiagramSet.resolve_ne_error (hl.keys ▸ hn) hg)
  | moved =>
    refine .of_phase ?_
    dsimp only [Result.after]
    split <;> nofun
  | unread =>
    rw [Event.refreshedFrom_error]
    exact h.of_eq rfl rfl fun _ => rfl
  | discarded => exact h.of_eq rfl rfl fun _ => rfl
  | loaded hp hload =>
    rw [Event.refreshedFrom_load hp]
    exact fun _ => Block.holds_ofText hload
  | unshown _ hload hn hr =>
    have hmem := headD_mem (Loaded.keys_ne_nil hload) defaultDiagramName
    exact absurd hr (DiagramSet.resolve_ne_error (hn ▸ hmem) hg)
  | @refreshed s t t' text name previous diagrams schema warnings picture hp hc =>
    rw [Event.refreshedFrom_refresh hp hc]
    intro hphase
    show diagrams.same previous = true
    by_contra hdiffer
    rw [Bool.not_eq_true] at hdiffer
    simp only [Result.after, showing, hdiffer] at hphase
    cases hphase
  | unwritten | writtenLate => exact .of_phase nofun
  | written hp =>
    obtain ⟨hdiagrams, old, hsave⟩ := hf.pending _ _ _ hp
    exact fun _ => Block.holds_save hsave hdiagrams

/-- A whole run keeps what is known of clean layouts in step with the session. -/
theorem clean_run (hg : g.Total) (hreal : g.Gives Position.Real) {s : Session × σ}
    {before : Option DiagramSet} (h : s.1.Clean before) (hf : s.1.Fit) {events : List Event}
    (he : ∀ e ∈ events, e.Fits) :
    (run g s events).1.Clean (refreshedFrom g s before events) := by
  induction events generalizing s before with
  | nil => exact h
  | cons e events ih =>
    have ho := outcome_step g e s
    exact ih (clean_outcome hg h hf ho) (fit_outcome hreal hf (he e List.mem_cons_self) ho)
      fun e' he' => he e' (List.mem_cons_of_mem _ he')

/-- **When a layout that counts as clean is clean.** After every run with a total generator that
gives places of double precision, over texts whose names fit into lines and moves to places of
double precision: when the layout counts as clean, the text holds the diagrams of the session just
when it holds those that the last refresh since the last load or save went out from. Without such a
refresh it holds the diagrams of the session. -/
theorem clean_iff (hg : g.Total) (hreal : g.Gives Position.Real) (seed : σ) (events : List Event)
    (he : ∀ e ∈ events, e.Fits) :
    let s := (run g (start, seed) events).1
    s.phase = .loaded →
      (Block.Holds s.text s.diagrams ↔
        ∀ previous, refreshedFrom g (start, seed) none events = some previous →
          Block.Holds s.text previous) := by
  intro s hphase
  have hclean : s.Clean (refreshedFrom g (start, seed) none events) :=
    clean_run hg hreal clean_start fit_start he
  have hknown := hclean hphase
  cases hfrom : refreshedFrom g (start, seed) none events with
  | none =>
    rw [hfrom] at hknown
    exact iff_of_true hknown nofun
  | some previous =>
    rw [hfrom] at hknown
    rw [Block.holds_congr hknown]
    exact ⟨fun h _ hp => Option.some.inj hp ▸ h, fun h => h previous rfl⟩

/-! A refresh right after a load writes the place of a table that only a wildcard mentions into the
diagrams before it compares them. -/

/-- A file whose diagram shows a schema through a wildcard. -/
def wildcardScript : String :=
  "/* @erd-pets\n[main]\ns.*\n*/\nCREATE TABLE s.t (c int);"

/-- The diagrams in the block of the file. -/
def wildcardDiagrams : DiagramSet :=
  .ofDiagrams [⟨"main", [.wildcard "s"]⟩]

/-- The diagrams with the place of the table in them. -/
def wildcardPlaced : DiagramSet :=
  .ofDiagrams [⟨"main", [.wildcard "s", .placed "s.t" ⟨.whole 250, .whole 50⟩]⟩]

/-- After a load and a refresh of the file the layout counts as clean, and the file does not hold
it. -/
theorem clean_wildcardScript_not_held :
    let g := Generator.constant ⟨.whole 250, .whole 50⟩
    let events : List Event :=
      [.load, .read (.ok wildcardScript), .refresh, .read (.ok wildcardScript)]
    let s := (run g (start, ()) events).1
    g.Total ∧ g.Gives Position.Real ∧ (∀ e ∈ events, e.Fits) ∧ s.phase = .loaded ∧
      s.pending = none ∧ refreshedFrom g (start, ()) none events = some wildcardPlaced ∧
      ¬ Block.Holds s.text wildcardPlaced ∧ ¬ Block.Holds s.text s.diagrams := by
  intro g events s
  have hg : g.Total := Generator.total_constant _
  have hreal : g.Gives Position.Real :=
    Generator.gives_constant ⟨Number.real_whole (by decide), Number.real_whole (by decide)⟩
  have hread : Block.readText wildcardScript = .ok (some wildcardDiagrams, []) := by decide +kernel
  have hfits : (Event.read (.ok wildcardScript)).Fits := by
    refine ⟨by decide +kernel, fun diagrams ws h => ?_⟩
    rw [hread] at h
    cases h
    decide
  have he : ∀ e ∈ events, e.Fits :=
    List.forall_mem_cons.2 ⟨trivial, List.forall_mem_cons.2 ⟨hfits, List.forall_mem_cons.2
      ⟨trivial, List.forall_mem_cons.2 ⟨hfits, List.forall_mem_nil _⟩⟩⟩⟩
  obtain ⟨hphase, hpending, htext, hfrom⟩ : s.phase = .loaded ∧ s.pending = none ∧
      s.text = wildcardScript ∧
      refreshedFrom g (start, ()) none events = some wildcardPlaced := by
    decide +kernel
  have hplaced : ¬ Block.Holds s.text wildcardPlaced := by
    intro h
    rw [htext] at h
    exact absurd (h wildcardDiagrams [] hread (by decide)) (by decide +kernel)
  have hclean := clean_iff hg hreal () events he hphase
  exact ⟨hg, hreal, he, hphase, hpending, hfrom, hplaced, fun h => hplaced (hclean.1 h _ hfrom)⟩

end SchemaCanvas
