import SchemaCanvas.Proofs.Sync.Failure
import SchemaCanvas.Proofs.Sync.Waiting

/-!
# Sessions with the host of their file

A request begins in the session, waits for the host of the file, and ends with the host's answer
(`Hosted.load`, `Hosted.refresh`, `Hosted.save`). While it waits the user may ask for other things
(`Wish`), which the session does or refuses. This module says what a request makes of the session
and the host: when a save can start (`startSave_eq_ok`, `startSave_of_ready`), and what the answer
of the host does to a request that is pending (`finishRead_of_superseded`, `Hosted.save_cases`).
-/

namespace SchemaCanvas

open Session

variable {σ α : Type} {g : Generator σ}

/-! ## The host -/

namespace Host

variable {host : Host} {text : String}

/-- What is read from the file is its text. -/
theorem eq_of_read (h : host.read = .ok text) : text = host.text := by
  unfold read at h
  split at h
  · cases h
  · exact (Except.ok.inj h).symm

/-- A write that is made puts its text into the file. -/
theorem after_write (h : (host.write text).1 = .written) :
    (host.write text).2 = { host with text } := by
  unfold write at h ⊢
  split at h
  · cases h
  · split at h
    · cases h
    · next hr => rw [if_neg hr]

/-- A write that is not made leaves the file alone. -/
theorem after_write_of_ne (h : (host.write text).1 ≠ .written) : (host.write text).2 = host := by
  unfold write at h ⊢
  split at h
  · rfl
  · split at h
    · next hr => rw [if_pos hr]
    · exact absurd rfl h

end Host

/-! ## Requests and wishes -/

/-- What a user may ask for while a request waits for the host. -/
inductive Wish
  | request (r : Request)
  | select (name : String)
  | move (table : String) (position : Position)

/-- The event that a wish is. -/
def Wish.event : Wish → Event
  | .request r => r.event
  | .select name => .select name
  | .move table position => .move table position

/-- A session, the state of its generator, and the host of its file. -/
structure Hosted (σ : Type) where
  state : Session × σ
  host : Host

namespace Hosted

/-- The session. -/
def session (w : Hosted σ) : Session :=
  w.state.1

/-- A step of a session and its host. -/
abbrev Step (σ α : Type) := EStateM SessionError (Hosted σ) α

/-- A step of the session, which leaves the host alone. -/
def asking (p : Session.Step σ α) : Hosted.Step σ α := fun w =>
  match p w.state with
  | .ok a state => .ok a { w with state }
  | .error cause state => .error cause { w with state }

/-- What reading the file gives. -/
def reading : Hosted.Step σ (Except String String) := fun w => .ok w.host.read w

/-- Writes the file. -/
def writing (text : String) : Hosted.Step σ WriteOutcome := fun w =>
  .ok (w.host.write text).1 { w with host := (w.host.write text).2 }

/-- The session does or refuses what it is asked for, one after another. -/
def meanwhile (g : Generator σ) (wishes : List Wish) : Hosted.Step σ Unit := fun w =>
  .ok () { w with state := run g w.state (wishes.map Wish.event) }

/-- A request for the text of the file, with the wishes that come while it waits. -/
def fetch (g : Generator σ) (start : Session.Step σ Unit) (wishes : List Wish) :
    Hosted.Step σ (Option Picture) := do
  asking start
  meanwhile g wishes
  let answer ← reading
  asking (finishRead g answer)

/-- A load, with the wishes that come while it waits. -/
def load (g : Generator σ) (wishes : List Wish) : Hosted.Step σ (Option Picture) :=
  fetch g startLoad wishes

/-- A refresh, with the wishes that come while it waits. -/
def refresh (g : Generator σ) (wishes : List Wish) : Hosted.Step σ (Option Picture) :=
  fetch g startRefresh wishes

/-- A save, with the wishes that come while it waits. -/
def save (g : Generator σ) (wishes : List Wish) : Hosted.Step σ String := do
  let text ← asking (startSave g)
  meanwhile g wishes
  let outcome ← writing text
  asking (finishWrite outcome)

variable {w w' : Hosted σ}

/-- A step of the session that answers leaves the host as it is. -/
theorem asking_of_ok {p : Session.Step σ α} {a : α} {state : Session × σ}
    (h : p w.state = .ok a state) : asking p w = .ok a ⟨state, w.host⟩ := by
  rw [asking, h]

/-- A step of the session that fails leaves the host as it is. -/
theorem asking_of_error {p : Session.Step σ α} {cause : SessionError} {state : Session × σ}
    (h : p w.state = .error cause state) : asking p w = .error cause ⟨state, w.host⟩ := by
  rw [asking, h]

/-- A step of the session answers exactly as it does without the host, which stays. -/
theorem asking_eq_ok {p : Session.Step σ α} {a : α} :
    asking p w = .ok a w' ↔ p w.state = .ok a w'.state ∧ w'.host = w.host := by
  obtain ⟨state', host'⟩ := w'
  cases h : p w.state with
  | ok b state => simp [asking_of_ok h, eq_comm, and_assoc]
  | error cause state => simp [asking_of_error h]

/-- A step of the session fails exactly as it does without the host, which stays. -/
theorem asking_eq_error {p : Session.Step σ α} {cause : SessionError} :
    asking p w = .error cause w' ↔ p w.state = .error cause w'.state ∧ w'.host = w.host := by
  obtain ⟨state', host'⟩ := w'
  cases h : p w.state with
  | ok b state => simp [asking_of_ok h]
  | error cause' state => simp [asking_of_error h, eq_comm, and_assoc]

/-- Whether a step completes and leaves what is asked for. -/
def completes (p : Hosted σ → Bool) : EStateM.Result SessionError (Hosted σ) α → Bool
  | .ok _ w => p w
  | .error .. => false

/-- A step that completes answers and leaves what is asked for. -/
theorem exists_of_completes {p : Hosted σ → Bool} {r : EStateM.Result SessionError (Hosted σ) α}
    (h : completes p r = true) : ∃ a w', r = .ok a w' ∧ p w' = true := by
  cases r with
  | ok a w' => exact ⟨a, w', rfl, h⟩
  | error cause w' => cases h

/-- Whether a step fails. -/
def fails : EStateM.Result SessionError (Hosted σ) α → Bool
  | .ok .. => false
  | .error .. => true

/-- A step that fails ends with a cause. -/
theorem exists_of_fails {r : EStateM.Result SessionError (Hosted σ) α} (h : fails r = true) :
    ∃ cause w', r = .error cause w' := by
  cases r with
  | ok a w' => cases h
  | error cause w' => exact ⟨cause, w', rfl⟩

/-- A request for the text is its start, the wishes, and the session's answer to what was read. -/
theorem fetch_of_start {start : Session.Step σ Unit} {state : Session × σ}
    (h : start w.state = .ok () state) (wishes : List Wish) :
    fetch g start wishes w = asking (finishRead g w.host.read)
      ⟨run g state (wishes.map Wish.event), w.host⟩ :=
  bind_of_ok (asking_of_ok h)

/-- A request that is refused at its start does not get to the host. -/
theorem fetch_of_error {start : Session.Step σ Unit} {cause : SessionError} {state : Session × σ}
    (h : start w.state = .error cause state) (wishes : List Wish) :
    fetch g start wishes w = .error cause ⟨state, w.host⟩ :=
  bind_of_error (asking_of_error h)

/-- A save is its start, the wishes, and the session's answer to what became of the write. -/
theorem save_of_start {text : String} {state : Session × σ}
    (h : startSave g w.state = .ok text state) (wishes : List Wish) :
    save g wishes w = asking (finishWrite (w.host.write text).1)
      ⟨run g state (wishes.map Wish.event), (w.host.write text).2⟩ :=
  bind_of_ok (asking_of_ok h)

/-- A save that is refused at its start does not get to the host. -/
theorem save_of_error {cause : SessionError} {state : Session × σ}
    (h : startSave g w.state = .error cause state) (wishes : List Wish) :
    save g wishes w = .error cause ⟨state, w.host⟩ :=
  bind_of_error (asking_of_error h)

end Hosted

/-! ## The start of a request -/

namespace Session

variable {s : Session} {t : σ}

/-- The session with another number for its latest request, and another pending request. -/
def relabelled (s : Session) (latest : Nat) (pending : Option Pending) : Session :=
  { s with latest, pending }

/-- A load starts in an idle session, and is refused in every other. -/
theorem startLoad_cases :
    (s.pending = none ∧ (startLoad : Step σ Unit) (s, t)
        = .ok () (s.relabelled (s.latest + 1) (some (.load (s.latest + 1))), t)) ∨
      ∃ cause, (startLoad : Step σ Unit) (s, t) = .error cause (s, t) := by
  rcases requireIdle_cases (s := s) (t := t) .load with ⟨hi, hidle⟩ | ⟨-, hbusy⟩
  · exact .inl ⟨hi, bind_of_ok hidle⟩
  · exact .inr ⟨_, bind_of_error hbusy⟩

/-- A refresh starts in an idle session with a file, and is refused in every other. -/
theorem startRefresh_cases :
    (∃ name, s.Shows name ∧ s.pending = none ∧ (startRefresh : Step σ Unit) (s, t)
        = .ok () (s.relabelled (s.latest + 1) (some (.refresh (s.latest + 1) name)), t)) ∨
      ∃ cause, (startRefresh : Step σ Unit) (s, t) = .error cause (s, t) := by
  rcases requireLoaded_cases (s := s) (t := t) .refresh with ⟨name, hs, hloaded⟩ | ⟨-, hunloaded⟩
  · rcases requireIdle_cases (s := s) (t := t) .refresh with ⟨hi, hidle⟩ | ⟨-, hbusy⟩
    · exact .inl ⟨name, hs, hi, (bind_of_ok hloaded).trans (bind_of_ok hidle)⟩
    · exact .inr ⟨_, (bind_of_ok hloaded).trans (bind_of_error hbusy)⟩
  · exact .inr ⟨_, bind_of_error hunloaded⟩

/-- A request for the text that starts has the next number and changes nothing else; one that does
not start changes nothing. -/
theorem start_cases {begin : Step σ Unit} (hb : begin ∈ [startLoad, startRefresh]) :
    (s.pending = none ∧ ∃ p, begin (s, t) = .ok () (s.relabelled (s.latest + 1) (some p), t) ∧
        (p = .load (s.latest + 1) ∨ ∃ name, p = .refresh (s.latest + 1) name)) ∨
      ∃ cause, begin (s, t) = .error cause (s, t) := by
  rcases List.mem_pair.1 hb with rfl | rfl
  · rcases startLoad_cases (s := s) (t := t) with ⟨hi, h⟩ | h
    · exact .inl ⟨hi, _, h, .inl rfl⟩
    · exact .inr h
  · rcases startRefresh_cases (s := s) (t := t) with ⟨name, -, hi, h⟩ | h
    · exact .inl ⟨hi, _, h, .inr ⟨name, rfl⟩⟩
    · exact .inr h

/-- A request for the text of the file starts only when none is pending, and is then pending under
the next number. -/
theorem start_eq_ok {begin : Step σ Unit} (hb : begin ∈ [startLoad, startRefresh])
    {after : Session × σ} (h : begin (s, t) = .ok () after) :
    s.pending = none ∧ ∃ p, after = (s.relabelled (s.latest + 1) (some p), t) ∧
      (p = .load (s.latest + 1) ∨ ∃ name, p = .refresh (s.latest + 1) name) := by
  rcases start_cases (s := s) (t := t) hb with ⟨hi, p, hok, hp⟩ | ⟨cause, herror⟩
  · rw [hok] at h
    cases h
    exact ⟨hi, p, rfl, hp⟩
  · rw [herror] at h
    cases h

/-- The session commits the diagrams with the places on the canvas. -/
theorem committed_of_commits {diagrams : DiagramSet} (hc : s.Commits diagrams) :
    committed (s, t) = .ok diagrams (s, t) := by
  rcases committed_cases (s := s) (t := t) with ⟨diagrams', hc', h⟩ | ⟨name, cause, ha, hm, -⟩
  · rw [h, hc.eq hc']
  · unfold Commits at hc
    rw [ha] at hc
    obtain ⟨d, hd, -⟩ := hc
    exact absurd (Registry.mem_keys_of_get? hd) hm

/-- The session in which the diagrams are being saved as a text. -/
def saving (s : Session) (diagrams : DiagramSet) (text : String) : Session :=
  { s.counted with phase := .saving, pending := some (.save s.counted.latest diagrams text) }

/-- A save of an idle session with a file places its diagrams and writes them. -/
theorem startSave_of_commits {name : String} {diagrams : DiagramSet} (hs : s.Shows name)
    (hi : s.pending = none) (hc : s.Commits diagrams) :
    startSave g (s, t) = (do
      let filled ← placing (diagrams.fill g)
      let text ← placing (Placing.save s.text filled)
      become (s.saving filled text)
      return text : Step σ String) (s.counted, t) := by
  have hloaded : requireLoaded .save (s, t) = .ok name (s, t) := by
    rcases requireLoaded_cases (s := s) (t := t) .save with ⟨name', hs', h⟩ | ⟨hu, -⟩
    · rw [h, Option.some.inj (hs'.2.symm.trans hs.2)]
    · exact absurd hs (hu name)
  have hidle : requireIdle .save (s, t) = .ok () (s, t) := by
    rcases requireIdle_cases (s := s) (t := t) .save with ⟨-, h⟩ | ⟨hbusy, -⟩
    · exact h
    · exact absurd hi hbusy
  have hcommitted : committed (s.counted, t) = .ok diagrams (s.counted, t) :=
    committed_of_commits (s := s.counted) hc
  exact (bind_of_ok hloaded).trans ((bind_of_ok hidle).trans (bind_of_ok hcommitted))

/-- A save of an idle session with a file starts as soon as its diagrams can be placed and
written. -/
theorem startSave_of_ready {name text : String} {diagrams filled : DiagramSet} {t' : σ}
    (hs : s.Shows name) (hi : s.pending = none) (hc : s.Commits diagrams)
    (hf : diagrams.fill g t = .ok filled t') (hb : Block.save s.text filled = .ok text) :
    startSave g (s, t) = .ok text (s.saving filled text, t') := by
  have hplaced := placing_of_ok (s := s.counted) hf
  have htext : placing (Placing.save s.text filled) (s.counted, t') = .ok text (s.counted, t') :=
    placing_of_ok (by rw [Placing.save, hb])
  rw [startSave_of_commits hs hi hc]
  exact (bind_of_ok hplaced).trans (bind_of_ok htext)

/-- A save that starts has a text to write for its diagrams. -/
theorem startSave_eq_ok {text : String} {after : Session × σ}
    (h : startSave g (s, t) = .ok text after) :
    s.pending = none ∧ ∃ name diagrams filled t', s.Shows name ∧ s.Commits diagrams ∧
      diagrams.fill g t = .ok filled t' ∧ Block.save s.text filled = .ok text ∧
      after = (s.saving filled text, t') := by
  have ho := outcome_step g .save (s, t)
  rw [show Event.step g .save (s, t) = .ok none after from bind_of_ok h] at ho
  cases ho with
  | startedSave hs hi hc hf hb =>
    rw [startSave_of_ready hs hi hc hf hb] at h
    cases h
    exact ⟨hi, _, _, _, _, hs, hc, hf, hb, rfl⟩

/-- A save that does not start changes nothing. -/
theorem startSave_eq_error {cause : SessionError} {after : Session × σ}
    (h : startSave g (s, t) = .error cause after) : s.Unchanged after.1 := by
  have ho := outcome_step g .save (s, t)
  rw [show Event.step g .save (s, t) = .error cause after from bind_of_error h] at ho
  cases ho with
  | refused => exact unchanged_self s
  | unsaved => exact unchanged_counted s

/-! ## The end of a request -/

/-- The text for a request that is not the latest is discarded. -/
theorem finishRead_of_superseded {number : Nat} (hp : s.AwaitsText number)
    (hn : number ≠ s.latest) (text : String) :
    finishRead g (.ok text) (s, t) = .ok none ({ s with pending := none }, t) := by
  unfold finishRead
  rw [current_bind]
  rcases hp with hp | ⟨name, hp⟩
  · rw [hp]
    dsimp only
    rw [become_bind, if_neg hn]
    rfl
  · rw [hp]
    dsimp only
    rw [become_bind, if_neg hn]
    rfl

/-- The session after a write: one that has gone on meanwhile keeps its own diagrams. -/
def written (s : Session) (number : Nat) (diagrams : DiagramSet) (text : String) : Session :=
  if number = s.latest then { s with pending := none, text, diagrams, phase := .loaded }
  else { s with pending := none, text, phase := .dirty }

@[simp] theorem text_written (s : Session) (number : Nat) (diagrams : DiagramSet) (text : String) :
    (s.written number diagrams text).text = text := by
  unfold written
  split <;> rfl

/-- What becomes of the write ends the save: a write that is made ends it with the text. -/
theorem finishWrite_of_saving {number : Nat} {diagrams : DiagramSet} {text : String}
    (hp : s.pending = some (.save number diagrams text)) (outcome : WriteOutcome) :
    (outcome = .written ∧
        finishWrite outcome (s, t) = .ok text (s.written number diagrams text, t)) ∨
      (outcome ≠ .written ∧ ∃ cause, finishWrite outcome (s, t)
        = .error cause ({ s with pending := none, phase := .dirty }, t)) := by
  have start : finishWrite outcome (s, t) = _ := current_bind _
  rw [hp] at start
  cases outcome with
  | refused => exact .inr ⟨nofun, _, start⟩
  | failed reason => exact .inr ⟨nofun, _, start⟩
  | written =>
    refine .inl ⟨rfl, start.trans ?_⟩
    dsimp only [written]
    by_cases hn : number = s.latest
    · rw [if_pos hn, if_pos hn]
      rfl
    · rw [if_neg hn, if_neg hn]
      rfl

end Session

/-- A save that has started ends when the host has answered: with the text that it has written, or
with a session that is dirty and a file that is left alone. -/
theorem Hosted.save_cases {w : Hosted σ} {text : String} {state u : Session × σ} {number : Nat}
    {diagrams : DiagramSet} (h : startSave g w.state = .ok text state) {wishes : List Wish}
    (hu : run g state (wishes.map Wish.event) = u)
    (hp : u.1.pending = some (.save number diagrams text)) :
    ((w.host.write text).1 = .written ∧ Hosted.save g wishes w
        = .ok text ⟨(u.1.written number diagrams text, u.2), { w.host with text }⟩) ∨
      ((w.host.write text).1 ≠ .written ∧ ∃ cause, Hosted.save g wishes w
        = .error cause ⟨({ u.1 with pending := none, phase := .dirty }, u.2), w.host⟩) := by
  rw [Hosted.save_of_start h, hu]
  rcases finishWrite_of_saving (t := u.2) hp (w.host.write text).1 with
    ⟨hw, hfinish⟩ | ⟨hw, cause, hfinish⟩
  · rw [Host.after_write hw]
    exact .inl ⟨hw, Hosted.asking_of_ok hfinish⟩
  · rw [Host.after_write_of_ne hw]
    exact .inr ⟨hw, cause, Hosted.asking_of_error hfinish⟩

end SchemaCanvas
