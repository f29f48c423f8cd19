import SchemaCanvas.Proofs.Sequence
import SchemaCanvas.Sync.Session

/-!
# What a session can do

A session goes on at events: the user asks for something, or the host answers a pending request.
`Event.step` is the step of a session at an event. `Outcome` lists all that a step can do, with the
guards under which it does it, `Refusal` the guards under which it does nothing, and `outcome_step`
says that nothing else can happen. What holds of a session along a run is proved by cases of
`Outcome`; no proof looks into a step again.

Between a request and the answer of the host any other events may come, so a list of events is a run
in which requests are pending while others are attempted.
-/

namespace SchemaCanvas

open Session

variable {σ α : Type}

/-- What happens to a session: the user asks for something, or the host answers. -/
inductive Event
  | load
  | refresh
  | save
  | select (name : String)
  | move (table : String) (position : Position)
  /-- The host answers a load or a refresh. -/
  | read (answer : Except String String)
  /-- The host answers a save. -/
  | write (outcome : WriteOutcome)

/-- The step of a session at an event, with the picture that it puts on the canvas, if any. -/
def Event.step (g : Generator σ) : Event → Step σ (Option Picture)
  | .load => do
    startLoad
    return none
  | .refresh => do
    startRefresh
    return none
  | .save => do
    let _ ← startSave g
    return none
  | .select name => do
    let picture ← Session.select g name
    return some picture
  | .move table position => do
    let picture ← Session.move table position
    return some picture
  | .read answer => finishRead g answer
  | .write outcome => do
    let _ ← finishWrite outcome
    return none

/-- What a step leaves: an answer or a cause, and the session and the generator's state after it. -/
abbrev Result (σ : Type) := EStateM.Result SessionError (Session × σ) (Option Picture)

/-- The session and the generator's state after a step, whether it succeeds or not. -/
def Result.after : Result σ → Session × σ
  | .ok _ s => s
  | .error _ s => s

namespace Session

/-- A file is loaded and the diagram called `name` is on the canvas. -/
def Shows (s : Session) (name : String) : Prop :=
  s.phase ≠ .unloaded ∧ s.active = some name

/-- The diagrams with the places on the canvas written into the diagram on it. -/
def Commits (s : Session) (diagrams : DiagramSet) : Prop :=
  match s.active with
  | none => diagrams = s.diagrams
  | some name => ∃ d, s.diagrams.get? name = some d ∧
      diagrams = s.diagrams.insert name (d.materialize s.positions)

/-- The diagrams that a selection goes on with: edits are written into the diagram on the canvas
unless the layout is as it was loaded or saved. -/
def Leaves (s : Session) (diagrams : DiagramSet) : Prop :=
  (s.phase = .dirty ∨ s.phase = .saving) ∧ s.Commits diagrams ∨
    ¬ (s.phase = .dirty ∨ s.phase = .saving) ∧ diagrams = s.diagrams

/-- The number of a request that waits for the text of the file. -/
def AwaitsText (s : Session) (number : Nat) : Prop :=
  s.pending = some (.load number) ∨ ∃ name, s.pending = some (.refresh number name)

/-- The answer of the host holds no file that the pending load could take over. -/
def Rejects (s : Session) (answer : Except String String) : Prop :=
  s.pending = some (.load s.latest) →
    ∀ text file, answer = .ok text → Loaded.ofText text ≠ .ok file

end Session

/-- What a user asks for that waits for the host. -/
inductive Request
  | load
  | refresh
  | save
  deriving DecidableEq, Repr

/-- The event that a request is. -/
def Request.event : Request → Event
  | .load => .load
  | .refresh => .refresh
  | .save => .save

/-- What a request is called in the account of a failure. -/
def Request.action : Request → Action
  | .load => .load
  | .refresh => .refresh
  | .save => .save

/-- What the user asks for at an event that needs a loaded file. -/
def Event.needs? : Event → Option Action
  | .refresh => some .refresh
  | .save => some .save
  | .select _ => some .select
  | .move .. => some .move
  | .load | .read _ | .write _ => none

/-- Why and when a session refuses an event. -/
inductive Refusal : Event → Session → SessionError → Prop
  /-- A request is pending, and no second one can start. -/
  | busy {e : Event} {s : Session} (r : Request) : e = r.event → s.pending ≠ none →
      Refusal e s (.busy r.action)
  | notLoaded {e : Event} {s : Session} {action : Action} : e.needs? = some action →
      (∀ name, ¬ s.Shows name) → Refusal e s (.notLoaded action)
  | unknownDiagram {s : Session} {name : String} : name ∉ s.diagrams.keys →
      Refusal (.select name) s (.unknownDiagram name)
  | notOnDiagram {s : Session} {table : String} {position : Position} : table ∉ s.positions.keys →
      Refusal (.move table position) s (.notOnDiagram table)
  /-- No request waits for a text. -/
  | unread {s : Session} {answer : Except String String} : (∀ number, ¬ s.AwaitsText number) →
      Refusal (.read answer) s .unexpectedAnswer
  /-- No request waits for a write. -/
  | unwritten {s : Session} {outcome : WriteOutcome} :
      (∀ number diagrams text, s.pending ≠ some (.save number diagrams text)) →
      Refusal (.write outcome) s .unexpectedAnswer

/-- All that the step of a session at an event can do. -/
inductive Outcome (g : Generator σ) : Event → Session × σ → Result σ → Prop
  /-- The session refuses, and stays as it is. -/
  | refused {e : Event} {s : Session} {t : σ} {cause : SessionError} : Refusal e s cause →
      Outcome g e (s, t) (.error cause (s, t))
  | startedLoad {s : Session} {t : σ} : s.pending = none →
      Outcome g .load (s, t)
        (.ok none ({ s.counted with pending := some (.load s.counted.latest) }, t))
  | startedRefresh {s : Session} {t : σ} {name : String} : s.Shows name → s.pending = none →
      Outcome g .refresh (s, t)
        (.ok none ({ s.counted with pending := some (.refresh s.counted.latest name) }, t))
  | startedSave {s : Session} {t t' : σ} {name text : String} {diagrams filled : DiagramSet} :
      s.Shows name → s.pending = none → s.Commits diagrams → diagrams.fill g t = .ok filled t' →
      Block.save s.text filled = .ok text →
      Outcome g .save (s, t)
        (.ok none ({ s.counted with
          phase := .saving, pending := some (.save s.counted.latest filled text) }, t'))
  /-- The layout cannot be placed or written. -/
  | unsaved {s : Session} {t t' : σ} {name : String} (cause : SessionError) :
      s.Shows name → s.pending = none → Outcome g .save (s, t) (.error cause (s.counted, t'))
  | selected {s : Session} {t t' : σ} {active name : String} {diagrams : DiagramSet}
      {picture : Picture} : s.Shows active → name ∈ s.diagrams.keys → s.Leaves diagrams →
      diagrams.resolve name s.schema g t = .ok picture t' →
      Outcome g (.select name) (s, t)
        (.ok (some picture)
          (({ s.counted with diagrams, active := some name }).showing picture, t'))
  /-- The edits have no diagram to be written into. -/
  | uncommitted {s : Session} {t : σ} {active name : String} (cause : SessionError) :
      s.Shows active → s.phase = .dirty ∨ s.phase = .saving → active ∉ s.diagrams.keys →
      Outcome g (.select name) (s, t) (.error cause (s.counted, t))
  /-- The tables of the selected diagram cannot be placed. -/
  | unplaced {s : Session} {t t' : σ} {active name : String} {diagrams : DiagramSet}
      {cause : LayoutError} : s.Shows active → name ∈ s.diagrams.keys → s.Leaves diagrams →
      diagrams.resolve name s.schema g t = .error cause t' →
      Outcome g (.select name) (s, t)
        (.error (.file (.layout cause)) ({ s.counted with diagrams, active := some name }, t'))
  | moved {s : Session} {t : σ} {name table : String} {position : Position} :
      s.Shows name → table ∈ s.positions.keys →
      (∀ other ∈ s.positions.keys, s.schema.contains other = true) →
      Outcome g (.move table position) (s, t)
        (.ok (some (Picture.draw s.schema (s.positions.insert table position)))
          ({ s.counted with
            positions := s.positions.insert table position
            picture := Picture.draw s.schema (s.positions.insert table position)
            phase := if s.phase = .saving then .saving else .dirty }, t))
  /-- A table on the canvas is not in the schema. -/
  | strayed {s : Session} {t : σ} {name table other : String} {position : Position} :
      s.Shows name → table ∈ s.positions.keys → other ∈ s.positions.keys →
      s.schema.contains other = false →
      Outcome g (.move table position) (s, t)
        (.error (.notInSchema other)
          ({ s.counted with positions := s.positions.insert table position }, t))
  /-- The file cannot be read, or its text not be taken over. -/
  | unread {s : Session} {t t' : σ} {number : Nat} {answer : Except String String}
      (cause : SessionError) : s.AwaitsText number → s.Rejects answer →
      Outcome g (.read answer) (s, t) (.error cause ({ s with pending := none }, t'))
  /-- The request has been superseded. -/
  | discarded {s : Session} {t : σ} {number : Nat} {text : String} : s.AwaitsText number →
      number ≠ s.latest →
      Outcome g (.read (.ok text)) (s, t) (.ok none ({ s with pending := none }, t))
  | loaded {s : Session} {t t' : σ} {text name : String} {file : Loaded} {picture : Picture} :
      s.pending = some (.load s.latest) → Loaded.ofText text = .ok file →
      name = file.diagrams.keys.headD defaultDiagramName →
      file.diagrams.resolve name file.schema g t = .ok picture t' →
      Outcome g (.read (.ok text)) (s, t)
        (.ok (some picture)
          ({ ({ s with
              pending := none, text, schema := file.schema, diagrams := file.diagrams
              warnings := file.warnings, active := some name } : Session).showing picture with
            phase := .loaded }, t'))
  /-- The tables of the first diagram of the file cannot be placed. -/
  | unshown {s : Session} {t t' : σ} {text name : String} {file : Loaded} {cause : LayoutError} :
      s.pending = some (.load s.latest) → Loaded.ofText text = .ok file →
      name = file.diagrams.keys.headD defaultDiagramName →
      file.diagrams.resolve name file.schema g t = .error cause t' →
      Outcome g (.read (.ok text)) (s, t)
        (.error (.file (.layout cause))
          ({ s with
            pending := none, text, schema := file.schema, diagrams := file.diagrams
            warnings := file.warnings, active := some name }, t'))
  | refreshed {s : Session} {t t' : σ} {text name : String} {previous diagrams : DiagramSet}
      {schema : Schema} {warnings : List Warning} {picture : Picture} :
      s.pending = some (.refresh s.latest name) → s.Commits previous →
      Schema.ofText? text = .ok (schema, warnings) →
      previous.refresh name schema g t = .ok (picture, diagrams) t' →
      Outcome g (.read (.ok text)) (s, t)
        (.ok (some picture)
          (({ s with
            pending := none, text, schema, diagrams, warnings := Warning.byLine warnings
            phase := if diagrams.same previous then s.phase else .dirty } : Session).showing
              picture, t'))
  /-- The write fails or is refused. -/
  | unwritten {s : Session} {t : σ} {number : Nat} {diagrams : DiagramSet} {text : String}
      {outcome : WriteOutcome} (cause : SessionError) :
      s.pending = some (.save number diagrams text) → outcome ≠ .written →
      Outcome g (.write outcome) (s, t)
        (.error cause ({ s with pending := none, phase := .dirty }, t))
  | written {s : Session} {t : σ} {diagrams : DiagramSet} {text : String} :
      s.pending = some (.save s.latest diagrams text) →
      Outcome g (.write .written) (s, t)
        (.ok none ({ s with pending := none, text, diagrams, phase := .loaded }, t))
  /-- The session has gone on during the write, and keeps its own diagrams. -/
  | writtenLate {s : Session} {t : σ} {number : Nat} {diagrams : DiagramSet} {text : String} :
      s.pending = some (.save number diagrams text) → number ≠ s.latest →
      Outcome g (.write .written) (s, t)
        (.ok none ({ s with pending := none, text, phase := .dirty }, t))

/-! ## Small steps -/

section
variable {s : Session} {t : σ}

/-- A step that asks for the session gets it. -/
theorem current_bind (f : Session → Step σ α) : (current >>= f) (s, t) = f s (s, t) := rfl

/-- A step that changes the session goes on with the changed one. -/
theorem become_bind (s' : Session) (f : Unit → Step σ α) :
    (become s' >>= f) (s, t) = f () (s', t) := rfl

/-- A check for a key that is there passes. -/
theorem check_of_mem {r : Registry α} {key : String} (h : key ∈ r.keys) (cause : SessionError) :
    check (r.contains key) cause (s, t) = .ok () (s, t) :=
  if_pos (Registry.contains_iff.2 h)

/-- A check for a key that is missing fails with its cause. -/
theorem check_of_not_mem {r : Registry α} {key : String} (h : key ∉ r.keys)
    (cause : SessionError) : check (r.contains key) cause (s, t) = .error cause (s, t) :=
  if_neg fun hc => h (Registry.contains_iff.1 hc)

/-- Either a diagram is on the canvas, or what needs a loaded file is refused. -/
theorem requireLoaded_cases (action : Action) :
    (∃ name, s.Shows name ∧ requireLoaded action (s, t) = .ok name (s, t)) ∨
      (∀ name, ¬ s.Shows name) ∧
        requireLoaded action (s, t) = .error (.notLoaded action) (s, t) := by
  obtain ⟨phase, text, schema, diagrams, active, positions, picture, warnings, latest, pending⟩ := s
  cases active with
  | none => exact .inr ⟨(fun _ h => nomatch h.2), by cases phase <;> rfl⟩
  | some name =>
    by_cases hp : phase = .unloaded
    · subst hp
      exact .inr ⟨fun _ h => h.1 rfl, rfl⟩
    · refine .inl ⟨name, ⟨hp, rfl⟩, ?_⟩
      cases phase with
      | unloaded => exact absurd rfl hp
      | loaded | dirty | saving => rfl

/-- Either no request is pending, or a further one is refused. -/
theorem requireIdle_cases (action : Action) :
    (s.pending = none ∧ requireIdle action (s, t) = .ok () (s, t)) ∨
      s.pending ≠ none ∧ requireIdle action (s, t) = .error (.busy action) (s, t) := by
  cases hp : s.pending with
  | none => exact .inl ⟨rfl, by simp [requireIdle, current_bind, check, hp]⟩
  | some pending => exact .inr ⟨nofun, by simp [requireIdle, current_bind, check, hp]⟩

/-- What is committed, and when it cannot be: the diagram on the canvas is not in the set. -/
theorem committed_cases :
    (∃ diagrams, s.Commits diagrams ∧ committed (s, t) = .ok diagrams (s, t)) ∨
      ∃ name cause, s.active = some name ∧ name ∉ s.diagrams.keys ∧
        committed (s, t) = .error cause (s, t) := by
  unfold committed Commits
  rw [current_bind]
  cases ha : s.active with
  | none => exact .inl ⟨_, rfl, rfl⟩
  | some name =>
    dsimp only
    unfold placing DiagramSet.commit DiagramSet.find
    cases hd : s.diagrams.get? name with
    | none => exact .inr ⟨name, _, rfl, Registry.get?_eq_none.1 hd, rfl⟩
    | some d => exact .inl ⟨_, ⟨d, rfl, rfl⟩, rfl⟩

/-- A placement that answers changes nothing but the state of the generator. -/
theorem placing_of_ok {p : Placing σ α} {a : α} {t' : σ} (h : p t = .ok a t') :
    placing p (s, t) = .ok a (s, t') := by
  rw [placing, h]

/-- A placement that fails is told as a failure of the layout. -/
theorem placing_of_error {p : Placing σ α} {cause : LayoutError} {t' : σ}
    (h : p t = .error cause t') :
    placing p (s, t) = .error (.file (.layout cause)) (s, t') := by
  rw [placing, h]

/-- Reading a file that succeeds changes nothing but the state of the generator. -/
theorem reading_of_ok {p : EStateM FileError σ α} {a : α} {t' : σ} (h : p t = .ok a t') :
    reading p (s, t) = .ok a (s, t') := by
  rw [reading, h]

/-- Reading a file that fails is told as a failure of the file. -/
theorem reading_of_error {p : EStateM FileError σ α} {cause : FileError} {t' : σ}
    (h : p t = .error cause t') : reading p (s, t) = .error (.file cause) (s, t') := by
  rw [reading, h]

/-- Either way a placing step leaves the session alone. -/
theorem placing_cases (p : Placing σ α) :
    (∃ a t', p t = .ok a t' ∧ placing p (s, t) = .ok a (s, t')) ∨
      ∃ cause t', p t = .error cause t' ∧
        placing p (s, t) = .error (.file (.layout cause)) (s, t') := by
  cases h : p t with
  | ok a t' => exact .inl ⟨a, t', rfl, placing_of_ok h⟩
  | error cause t' => exact .inr ⟨cause, t', rfl, placing_of_error h⟩

end

/-! ## Every step is an outcome -/

section
variable (g : Generator σ) (s : Session) (t : σ)

/-- A load starts, or is refused while another request is pending. -/
theorem outcome_load : Outcome g .load (s, t) (Event.step g .load (s, t)) := by
  show Outcome g .load (s, t) ((startLoad >>= fun _ => pure none) (s, t))
  rcases requireIdle_cases (s := s) (t := t) .load with ⟨hi, h⟩ | ⟨hb, h⟩
  · rw [bind_of_ok (show startLoad (s, t) = .ok () _ from bind_of_ok h)]
    exact .startedLoad hi
  · rw [bind_of_error (show startLoad (s, t) = .error _ (s, t) from bind_of_error h)]
    exact .refused (.busy .load rfl hb)

/-- A refresh starts, or is refused without a file or while another request is pending. -/
theorem outcome_refresh : Outcome g .refresh (s, t) (Event.step g .refresh (s, t)) := by
  show Outcome g .refresh (s, t) ((startRefresh >>= fun _ => pure none) (s, t))
  rcases requireLoaded_cases (s := s) (t := t) .refresh with ⟨name, hs, h⟩ | ⟨hn, h⟩
  · rcases requireIdle_cases (s := s) (t := t) .refresh with ⟨hi, h'⟩ | ⟨hb, h'⟩
    · rw [bind_of_ok (show startRefresh (s, t) = .ok () _ from
        (bind_of_ok h).trans (bind_of_ok h'))]
      exact .startedRefresh hs hi
    · rw [bind_of_error (show startRefresh (s, t) = .error _ (s, t) from
        (bind_of_ok h).trans (bind_of_error h'))]
      exact .refused (.busy .refresh rfl hb)
  · rw [bind_of_error (show startRefresh (s, t) = .error _ (s, t) from bind_of_error h)]
    exact .refused (.notLoaded rfl hn)

/-- A save starts, is refused, or fails where its text is prepared. -/
theorem outcome_save : Outcome g .save (s, t) (Event.step g .save (s, t)) := by
  show Outcome g .save (s, t) ((startSave g >>= fun _ => pure none) (s, t))
  rcases requireLoaded_cases (s := s) (t := t) .save with ⟨name, hs, hl⟩ | ⟨hn, hl⟩
  · rcases requireIdle_cases (s := s) (t := t) .save with ⟨hi, hq⟩ | ⟨hp, hq⟩
    · have unsaved : ∀ {cause t'}, startSave g (s, t) = .error cause (s.counted, t') →
          Outcome g .save (s, t) ((startSave g >>= fun _ => pure none) (s, t)) := fun h => by
        rw [bind_of_error h]
        exact .unsaved _ hs hi
      have start : startSave g (s, t) = (do
          let diagrams ← committed
          let filled ← placing (diagrams.fill g)
          let text ← placing (Placing.save s.text filled)
          become { s.counted with
            phase := .saving, pending := some (.save s.counted.latest filled text) }
          return text : Step σ String) (s.counted, t) :=
        (bind_of_ok hl).trans (bind_of_ok hq)
      rcases committed_cases (s := s.counted) (t := t) with ⟨diagrams, hc, h⟩ | ⟨_, _, _, _, h⟩
      · have start := start.trans (bind_of_ok h)
        rcases placing_cases (s := s.counted) (t := t) (diagrams.fill g) with
          ⟨filled, t', hf, h⟩ | ⟨cause, t', _, h⟩
        · have start := start.trans (bind_of_ok h)
          cases hb : Block.save s.text filled with
          | ok text =>
            have hp : Placing.save s.text filled t' = .ok text t' := by rw [Placing.save, hb]
            rw [bind_of_ok (show startSave g (s, t) = .ok text _ from
              start.trans (bind_of_ok (placing_of_ok hp)))]
            exact .startedSave hs hi hc hf hb
          | error cause =>
            have hp : Placing.save s.text filled t' = .error cause t' := by rw [Placing.save, hb]
            exact unsaved (start.trans (bind_of_error (placing_of_error hp)))
        · exact unsaved (start.trans (bind_of_error h))
      · exact unsaved (start.trans (bind_of_error h))
    · rw [bind_of_error (show startSave g (s, t) = .error _ (s, t) from
        (bind_of_ok hl).trans (bind_of_error hq))]
      exact .refused (.busy .save rfl hp)
  · rw [bind_of_error (show startSave g (s, t) = .error _ (s, t) from bind_of_error hl)]
    exact .refused (.notLoaded rfl hn)

/-- A selection shows a diagram of the file, is refused, or fails where its tables are placed. -/
theorem outcome_select (name : String) :
    Outcome g (.select name) (s, t) (Event.step g (.select name) (s, t)) := by
  show Outcome g (.select name) (s, t)
    ((Session.select g name >>= fun picture => pure (some picture)) (s, t))
  rcases requireLoaded_cases (s := s) (t := t) .select with ⟨active, hs, hl⟩ | ⟨hu, hl⟩
  · by_cases hn : name ∈ s.diagrams.keys
    · have start : Session.select g name (s, t) = (do
          let diagrams ←
            if s.phase = .dirty ∨ s.phase = .saving then committed else pure s.diagrams
          become { s.counted with diagrams, active := some name }
          let picture ← placing (diagrams.resolve name s.schema g)
          let s ← current
          become (s.showing picture)
          return picture : Step σ Picture) (s.counted, t) :=
        (bind_of_ok hl).trans (bind_of_ok (check_of_mem hn _))
      have resolve : ∀ {diagrams}, s.Leaves diagrams →
          Session.select g name (s, t) = (do
            let picture ← placing (diagrams.resolve name s.schema g)
            let s ← current
            become (s.showing picture)
            return picture : Step σ Picture)
              ({ s.counted with diagrams, active := some name }, t) →
          Outcome g (.select name) (s, t)
            ((Session.select g name >>= fun picture => pure (some picture)) (s, t)) := by
        intro diagrams hd start
        rcases placing_cases (s := { s.counted with diagrams, active := some name }) (t := t)
          (diagrams.resolve name s.schema g) with ⟨picture, t', hr, h⟩ | ⟨cause, t', hr, h⟩
        · rw [bind_of_ok (show Session.select g name (s, t) = .ok picture _ from
            start.trans (bind_of_ok h))]
          exact .selected hs hn hd hr
        · rw [bind_of_error (start.trans (bind_of_error h))]
          exact .unplaced hs hn hd hr
      by_cases hp : s.phase = .dirty ∨ s.phase = .saving
      · rw [if_pos hp] at start
        rcases committed_cases (s := s.counted) (t := t) with ⟨diagrams, hc, h⟩ | ⟨a, _, ha, hm, h⟩
        · exact resolve (.inl ⟨hp, hc⟩) (start.trans (bind_of_ok h))
        · rw [bind_of_error (start.trans (bind_of_error h))]
          obtain rfl : active = a := Option.some.inj (hs.2.symm.trans ha)
          exact .uncommitted _ hs hp hm
      · rw [if_neg hp] at start
        exact resolve (.inr ⟨hp, rfl⟩) start
    · rw [bind_of_error (show Session.select g name (s, t) = .error _ (s, t) from
        (bind_of_ok hl).trans ((current_bind _).trans (bind_of_error (check_of_not_mem hn _))))]
      exact .refused (.unknownDiagram hn)
  · rw [bind_of_error (show Session.select g name (s, t) = .error _ (s, t) from bind_of_error hl)]
    exact .refused (.notLoaded rfl hu)

/-- A move puts the table at the position, or is refused. -/
theorem outcome_move (table : String) (position : Position) :
    Outcome g (.move table position) (s, t) (Event.step g (.move table position) (s, t)) := by
  show Outcome g (.move table position) (s, t)
    ((Session.move table position >>= fun picture => pure (some picture)) (s, t))
  rcases requireLoaded_cases (s := s) (t := t) .move with ⟨name, hs, hl⟩ | ⟨hu, hl⟩
  · by_cases hm : table ∈ s.positions.keys
    · have hk := check_of_mem (s := s) (t := t) hm (.notOnDiagram table)
      have hkeys : (s.positions.insert table position).keys = s.positions.keys := by
        rw [Registry.keys_insert, if_pos hm]
      cases hf : (s.positions.insert table position).keys.find?
          fun name => !s.schema.contains name with
      | some other =>
        have hstray : Session.move table position (s, t) = .error (.notInSchema other)
            ({ s.counted with positions := s.positions.insert table position }, t) := by
          refine (bind_of_ok hl).trans ((current_bind _).trans ((bind_of_ok hk).trans ?_))
          rw [hf]
          rfl
        rw [bind_of_error hstray]
        have ho := List.find?_some hf
        have hm' := List.mem_of_find?_eq_some hf
        rw [hkeys] at hm'
        exact .strayed hs hm hm' (by simpa using ho)
      | none =>
        have hmoved : Session.move table position (s, t)
            = .ok (Picture.draw s.schema (s.positions.insert table position))
              ({ s.counted with
                positions := s.positions.insert table position
                picture := Picture.draw s.schema (s.positions.insert table position)
                phase := if s.phase = .saving then .saving else .dirty }, t) := by
          refine (bind_of_ok hl).trans ((current_bind _).trans ((bind_of_ok hk).trans ?_))
          rw [hf]
          rfl
        rw [bind_of_ok hmoved]
        rw [List.find?_eq_none, hkeys] at hf
        exact .moved hs hm fun other ho => by simpa using hf other ho
    · rw [bind_of_error (show Session.move table position (s, t) = .error _ (s, t) from
        (bind_of_ok hl).trans ((current_bind _).trans (bind_of_error (check_of_not_mem hm _))))]
      exact .refused (.notOnDiagram hm)
  · rw [bind_of_error (show Session.move table position (s, t) = .error _ (s, t) from
      bind_of_error hl)]
    exact .refused (.notLoaded rfl hu)

/-- The answer to a load that is not superseded. -/
theorem outcome_adopt {text : String} (hp : s.pending = some (.load s.latest)) :
    Outcome g (.read (.ok text)) (s, t)
      ((adopt g text >>= fun picture => pure (some picture)) ({ s with pending := none }, t)) := by
  cases hf : Loaded.ofText text with
  | error cause =>
    rw [bind_of_error (show adopt g text ({ s with pending := none }, t) =
      .error (.file (.structural cause)) ({ s with pending := none }, t) from
        bind_of_error (reading_of_error (by rw [hf])))]
    refine .unread _ (.inl hp) fun _ other file ho => ?_
    rw [← Except.ok.inj ho, hf]
    nofun
  | ok file =>
    have start : adopt g text ({ s with pending := none }, t) = (do
        let name := file.diagrams.keys.headD defaultDiagramName
        let picture ← placing (file.diagrams.resolve name file.schema g)
        let s ← current
        become { s.showing picture with phase := .loaded }
        return picture : Step σ Picture)
          ({ s with
            pending := none, text, schema := file.schema, diagrams := file.diagrams
            warnings := file.warnings
            active := some (file.diagrams.keys.headD defaultDiagramName) }, t) :=
      bind_of_ok (reading_of_ok (by rw [hf]))
    rcases placing_cases (t := t)
      (s := { s with
        pending := none, text, schema := file.schema, diagrams := file.diagrams
        warnings := file.warnings
        active := some (file.diagrams.keys.headD defaultDiagramName) })
      (file.diagrams.resolve (file.diagrams.keys.headD defaultDiagramName) file.schema g) with
      ⟨picture, t', hr, h⟩ | ⟨cause, t', hr, h⟩
    · rw [bind_of_ok (start.trans (bind_of_ok h))]
      exact .loaded hp hf rfl hr
    · rw [bind_of_error (start.trans (bind_of_error h))]
      exact .unshown hp hf rfl hr

/-- What a refresh makes of a session whose diagrams can be committed and placed. Whether the
session is dirty afterwards is a condition on the diagrams. -/
theorem renew_of_committed {g : Generator σ} {s : Session} {t t' : σ} {name text : String}
    {previous diagrams : DiagramSet} {schema : Schema} {warnings : List Warning}
    {picture : Picture} (hc : committed (s, t) = .ok previous (s, t))
    (hs : Schema.ofText? text = .ok (schema, warnings))
    (hr : previous.refresh name schema g t = .ok (picture, diagrams) t') :
    renew g name text (s, t) = .ok picture
      (({ s with
        text, schema, diagrams, warnings := Warning.byLine warnings
        phase := if diagrams.same previous then s.phase else .dirty } : Session).showing
          picture, t') := by
  have hf : Refreshed.ofText name text previous g t
      = .ok ⟨schema, picture, diagrams, Warning.byLine warnings⟩ t' := by
    simp only [Refreshed.ofText, hs, hr]
  refine (bind_of_ok hc).trans ((bind_of_ok (reading_of_ok hf)).trans ?_)
  cases diagrams.same previous <;> rfl

/-- The answer to a refresh that is not superseded. -/
theorem outcome_renew {name text : String} (hp : s.pending = some (.refresh s.latest name)) :
    Outcome g (.read (.ok text)) (s, t)
      ((renew g name text >>= fun picture => pure (some picture))
        ({ s with pending := none }, t)) := by
  have unread : ∀ {cause t'},
      renew g name text ({ s with pending := none }, t)
        = .error cause ({ s with pending := none }, t') →
      Outcome g (.read (.ok text)) (s, t)
        ((renew g name text >>= fun picture => pure (some picture))
          ({ s with pending := none }, t)) := fun h => by
    rw [bind_of_error h]
    exact .unread _ (.inr ⟨name, hp⟩) fun hload => by rw [hp] at hload; cases hload
  rcases committed_cases (s := { s with pending := none }) (t := t) with
    ⟨previous, hc, h⟩ | ⟨_, _, _, _, h⟩
  · have start : renew g name text ({ s with pending := none }, t) = _ := bind_of_ok h
    cases hs : Schema.ofText? text with
    | error cause =>
      have hf : Refreshed.ofText name text previous g t = .error (.structural cause) t := by
        simp only [Refreshed.ofText, hs]
      exact unread (start.trans (bind_of_error (reading_of_error hf)))
    | ok read =>
      obtain ⟨schema, warnings⟩ := read
      cases hr : previous.refresh name schema g t with
      | error cause t' =>
        have hf : Refreshed.ofText name text previous g t = .error (.layout cause) t' := by
          simp only [Refreshed.ofText, hs, hr]
        exact unread (start.trans (bind_of_error (reading_of_error hf)))
      | ok answer t' =>
        obtain ⟨picture, diagrams⟩ := answer
        rw [bind_of_ok (renew_of_committed h hs hr)]
        exact .refreshed hp hc hs hr
  · exact unread (bind_of_error h)

/-- The text of the file ends the load or refresh that waits for it, or nothing waits for it. -/
theorem outcome_read (answer : Except String String) :
    Outcome g (.read answer) (s, t) (Event.step g (.read answer) (s, t)) := by
  show Outcome g (.read answer) (s, t) (finishRead g answer (s, t))
  unfold finishRead
  rw [current_bind]
  cases hp : s.pending with
  | none => exact .refused (.unread (by simp [AwaitsText, hp]))
  | some pending =>
    cases pending with
    | save number diagrams text => exact .refused (.unread (by simp [AwaitsText, hp]))
    | load number =>
      dsimp only
      rw [become_bind]
      cases answer with
      | error reason => exact .unread _ (.inl hp) nofun
      | ok text =>
        by_cases hn : number = s.latest
        · subst hn
          simp only [if_true]
          exact outcome_adopt g s t hp
        · simp only [if_neg hn]
          exact .discarded (.inl hp) hn
    | refresh number name =>
      dsimp only
      rw [become_bind]
      cases answer with
      | error reason => exact .unread _ (.inr ⟨name, hp⟩) nofun
      | ok text =>
        by_cases hn : number = s.latest
        · subst hn
          simp only [if_true]
          exact outcome_renew g s t hp
        · simp only [if_neg hn]
          exact .discarded (.inr ⟨name, hp⟩) hn

/-- The outcome of a write ends the save that waits for it, or nothing waits for it. -/
theorem outcome_write (outcome : WriteOutcome) :
    Outcome g (.write outcome) (s, t) (Event.step g (.write outcome) (s, t)) := by
  show Outcome g (.write outcome) (s, t) ((finishWrite outcome >>= fun _ => pure none) (s, t))
  have start : finishWrite outcome (s, t) = _ := current_bind _
  cases hp : s.pending with
  | none =>
    rw [hp] at start
    rw [bind_of_error start]
    exact .refused (.unwritten (by simp [hp]))
  | some pending =>
    rw [hp] at start
    cases pending with
    | load number | refresh number name =>
      rw [bind_of_error start]
      exact .refused (.unwritten (by simp [hp]))
    | save number diagrams text =>
      cases outcome with
      | failed reason =>
        rw [bind_of_error start]
        exact .unwritten _ hp nofun
      | refused =>
        rw [bind_of_error start]
        exact .unwritten _ hp nofun
      | written =>
        dsimp only at start
        by_cases hn : number = s.latest
        · subst hn
          rw [if_pos rfl] at start
          rw [bind_of_ok start]
          exact .written hp
        · rw [if_neg hn] at start
          rw [bind_of_ok start]
          exact .writtenLate hp hn

end

/-- Every step is one of the listed outcomes. -/
theorem outcome_step (g : Generator σ) (e : Event) (s : Session × σ) :
    Outcome g e s (e.step g s) := by
  obtain ⟨s, t⟩ := s
  cases e with
  | load => exact outcome_load g s t
  | refresh => exact outcome_refresh g s t
  | save => exact outcome_save g s t
  | select name => exact outcome_select g s t name
  | move table position => exact outcome_move g s t table position
  | read answer => exact outcome_read g s t answer
  | write outcome => exact outcome_write g s t outcome

end SchemaCanvas
