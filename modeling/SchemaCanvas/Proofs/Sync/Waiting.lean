import SchemaCanvas.Proofs.Sync.Run

/-!
# At most one request waits for the host

Which requests wait for the host can be told from a run alone: a request waits from the event at
which it succeeds to start until the host answers it (`waiting`). Along every run, with any
generator, at most one request waits; the session is busy just while one does, and saving just while
a save does (`one_request_waits`). While the session is busy it refuses every other request and
stays as it is, every answer of the host and every start that fails leaves it idle, and a session
that has a file loaded never loses it.
-/

namespace SchemaCanvas

variable {σ : Type} {g : Generator σ}

/-! ## The requests of a run -/

/-- The request that an event is. -/
def Event.request? : Event → Option Request
  | .load => some .load
  | .refresh => some .refresh
  | .save => some .save
  | .select _ | .move .. | .read _ | .write _ => none

/-- Whether the event is an answer of the host to the request. -/
def Event.answers : Event → Request → Bool
  | .read _, .load | .read _, .refresh => true
  | .write _, .save => true
  | _, _ => false

/-- The requests that wait for the host after an event with the given result: a request that starts
joins those that waited before, and an answer takes away the first one that it answers. -/
def Event.waiting (r : Result σ) (e : Event) (requests : List Request) : List Request :=
  match e.request?, r with
  | some request, .ok .. => requests ++ [request]
  | some _, .error .. => requests
  | none, _ => requests.eraseP e.answers

/-- The requests that wait for the host after a run, given those that waited before it. -/
def waiting (g : Generator σ) : Session × σ → List Request → List Event → List Request
  | _, requests, [] => requests
  | s, requests, e :: events =>
    waiting g (e.next g s) (e.waiting (e.step g s) requests) events

/-- The request that is pending. -/
def Pending.request : Pending → Request
  | .load _ => .load
  | .refresh .. => .refresh
  | .save .. => .save

/-- Whether a request is pending. -/
def Session.Busy (s : Session) : Prop :=
  s.pending ≠ none

/-- The pending request is the one that waits, and the session is saving just while it is a save. -/
structure Session.Waits (s : Session) (requests : List Request) : Prop where
  requests_eq : requests = (s.pending.map Pending.request).toList
  saving_iff : s.phase = .saving ↔ s.pending.map Pending.request = some .save

namespace Session

variable {s : Session} {requests : List Request}

/-- At the start no request waits. -/
theorem waits_start : start.Waits [] :=
  ⟨rfl, by simp [start]⟩

/-- A session is idle exactly if no request waits. -/
theorem Waits.not_busy_iff (h : s.Waits requests) : ¬ s.Busy ↔ requests = [] := by
  rw [h.requests_eq, Busy]
  cases s.pending <;> simp

/-- A session is busy exactly if one request waits. -/
theorem Waits.busy_iff (h : s.Waits requests) : s.Busy ↔ ∃ r, requests = [r] := by
  rw [h.requests_eq, Busy]
  cases s.pending <;> simp

/-- A session is saving exactly if the request that waits is a save. -/
theorem Waits.saving_iff_waiting (h : s.Waits requests) :
    s.phase = .saving ↔ requests = [.save] := by
  rw [h.saving_iff, h.requests_eq]
  cases s.pending <;> simp

/-- A session that is not saving and in which nothing is pending has no request waiting. -/
theorem Waits.of_idle (hp : s.pending = none) (hs : s.phase ≠ .saving) : s.Waits [] :=
  ⟨by rw [hp]; rfl, by simp [hp, hs]⟩

/-- A session whose pending request is no save is not saving. -/
theorem Waits.ne_saving (h : s.Waits requests) (hp : s.pending.map Pending.request ≠ some .save) :
    s.phase ≠ .saving :=
  fun hs => hp (h.saving_iff.1 hs)

/-- An idle session is not saving. -/
theorem Waits.not_saving (h : s.Waits requests) (hi : s.pending = none) : s.phase ≠ .saving :=
  h.ne_saving (by rw [hi]; nofun)

/-- A request that starts while none is pending is the one that waits. -/
theorem Waits.started (h : s.Waits requests) (hi : s.pending = none) {s' : Session} {p : Pending}
    (hp : s'.pending = some p) (hs : s'.phase = .saving ↔ p.request = .save) :
    s'.Waits (requests ++ [p.request]) where
  requests_eq := by rw [h.requests_eq, hi, hp]; rfl
  saving_iff := by rw [hs, hp]; simp

/-- What a session waits for depends on its phase and its pending request alone. -/
theorem Waits.of_eq {s' : Session} (h : s.Waits requests) (hp : s'.pending = s.pending)
    (hs : s'.phase = .saving ↔ s.phase = .saving) : s'.Waits requests :=
  ⟨hp ▸ h.requests_eq, by rw [hs, hp, h.saving_iff]⟩

end Session

open Session

/-! ## Refused events -/

/-- A request is refused because another one is pending, or because no file is loaded, which a load
does not need. -/
theorem Refusal.of_request {r : Request} {s : Session} {cause : SessionError}
    (h : Refusal r.event s cause) :
    cause = .busy r.action ∨ r ≠ .load ∧ cause = .notLoaded r.action := by
  generalize he : r.event = e at h
  cases h with
  | busy r' he' =>
    cases r <;> cases r' <;> first | exact .inl rfl | exact absurd (he.trans he') nofun
  | notLoaded hneeds =>
    subst he
    cases r with
    | load => cases hneeds
    | refresh | save => cases hneeds; exact .inr ⟨nofun, rfl⟩
  | unknownDiagram | notOnDiagram | unread | unwritten => cases r <;> cases he

/-- A busy session refuses every request and stays as it is, and so does the generator. -/
theorem Session.Busy.refuses {s : Session} (h : s.Busy) (g : Generator σ) (t : σ) (r : Request) :
    ∃ cause, Refusal r.event s cause ∧ r.event.step g (s, t) = .error cause (s, t) := by
  have ho := outcome_step g r.event (s, t)
  generalize r.event.step g (s, t) = result at ho ⊢
  cases r with
  | load =>
    cases ho with
    | refused hr => exact ⟨_, hr, rfl⟩
    | startedLoad hi => exact absurd hi h
  | refresh =>
    cases ho with
    | refused hr => exact ⟨_, hr, rfl⟩
    | startedRefresh hs hi => exact absurd hi h
  | save =>
    cases ho with
    | refused hr => exact ⟨_, hr, rfl⟩
    | startedSave hs hi => exact absurd hi h
    | unsaved cause hs hi => exact absurd hi h

/-! ## What one step and a whole run keep -/

section
variable {s : Session} {requests : List Request}

/-- The request that waits is the one that is pending. -/
theorem Session.Waits.mem_iff (h : s.Waits requests) {r : Request} :
    r ∈ requests ↔ ∃ p, s.pending = some p ∧ p.request = r := by
  rw [h.requests_eq]
  cases s.pending <;> simp [eq_comm]

/-- An event that is no request takes away the first request that it answers. -/
theorem Event.waiting_of_not_request {e : Event} (he : e.request? = none) (r : Result σ) :
    e.waiting r requests = requests.eraseP e.answers := by
  cases r <;> simp only [Event.waiting, he]

/-- An event that answers no pending request leaves those that wait. -/
theorem Session.Waits.eraseP_answers (h : s.Waits requests) {e : Event}
    (he : ∀ p, s.pending = some p → e.answers p.request = false) :
    requests.eraseP e.answers = requests := by
  refine List.eraseP_of_forall_not fun r hr => ?_
  obtain ⟨p, hp, rfl⟩ := h.mem_iff.1 hr
  simp [he p hp]

/-- The answer of the host to the pending request leaves none that waits. -/
theorem Session.Waits.waiting_answered (h : s.Waits requests) {p : Pending} {e : Event}
    (hp : s.pending = some p) (he : e.answers p.request = true) (r : Result σ) :
    e.waiting r requests = [] := by
  have hnone : e.request? = none := by
    cases e with
    | read | write => rfl
    | load | refresh | save | select | move => cases he
  rw [Event.waiting_of_not_request hnone, h.requests_eq, hp]
  simp [he]

/-- An answer to the pending request ends it, and no request waits afterwards. -/
theorem Session.Waits.answered (h : s.Waits requests) {s' : Session} {p : Pending} {e : Event}
    (r : Result σ) (hp : s.pending = some p) (he : e.answers p.request = true)
    (hi : s'.pending = none) (hs : s'.phase ≠ .saving) : s'.Waits (e.waiting r requests) := by
  rw [h.waiting_answered hp he]
  exact .of_idle hi hs

/-- A session that waits for the text of the file is not saving. -/
theorem Session.Waits.of_awaitsText (h : s.Waits requests) {number : Nat}
    (hw : s.AwaitsText number) :
    s.phase ≠ .saving ∧
      ∃ p, s.pending = some p ∧ ∀ answer, (Event.read answer).answers p.request = true := by
  rcases hw with hp | ⟨name, hp⟩ <;>
    exact ⟨h.ne_saving (by rw [hp]; nofun), _, hp, fun _ => rfl⟩

/-- A refused event neither starts nor answers a request. -/
theorem Session.Waits.of_refusal {e : Event} {cause : SessionError} (h : s.Waits requests)
    (hr : Refusal e s cause) (s' : Session × σ) :
    e.waiting (.error cause s') requests = requests := by
  cases hr with
  | busy r he => cases r <;> (subst he; rfl)
  | notLoaded hneeds =>
    cases e with
    | load | read | write => cases hneeds
    | refresh | save => rfl
    | select | move => exact h.eraseP_answers fun _ _ => rfl
  | unknownDiagram | notOnDiagram => exact h.eraseP_answers fun _ _ => rfl
  | unread hn =>
    refine h.eraseP_answers fun p hp => ?_
    cases p with
    | load number => exact absurd (.inl hp) (hn number)
    | refresh number name => exact absurd (.inr ⟨name, hp⟩) (hn number)
    | save => rfl
  | unwritten hn =>
    refine h.eraseP_answers fun p hp => ?_
    cases p with
    | load | refresh => rfl
    | save number diagrams text => exact absurd hp (hn number diagrams text)

end

/-- One step keeps what the session waits for. -/
theorem waits_outcome {e : Event} {s : Session × σ} {r : Result σ} {requests : List Request}
    (h : s.1.Waits requests) (ho : Outcome g e s r) :
    r.after.1.Waits (e.waiting r requests) := by
  cases ho with
  | refused hr =>
    rw [h.of_refusal hr]
    exact h
  | startedLoad hi =>
    exact h.started hi (p := .load _) rfl (iff_of_false (h.not_saving hi) nofun)
  | startedRefresh _ hi =>
    exact h.started hi (p := .refresh _ _) rfl (iff_of_false (h.not_saving hi) nofun)
  | startedSave _ hi => exact h.started hi (p := .save _ _ _) rfl (iff_of_true rfl rfl)
  | unsaved => exact h.of_eq rfl Iff.rfl
  | selected | uncommitted | unplaced | strayed =>
    rw [Event.waiting_of_not_request rfl, h.eraseP_answers fun _ _ => rfl]
    exact h.of_eq rfl Iff.rfl
  | @moved s =>
    rw [Event.waiting_of_not_request rfl, h.eraseP_answers fun _ _ => rfl]
    refine h.of_eq rfl ?_
    by_cases hs : s.phase = .saving <;> simp [Result.after, hs]
  | unread _ hw | discarded hw =>
    obtain ⟨hs, p, hp, he⟩ := h.of_awaitsText hw
    exact h.answered _ hp (he _) rfl hs
  | loaded hp => exact h.answered _ hp rfl rfl nofun
  | unshown hp => exact h.answered _ hp rfl rfl (h.of_awaitsText (.inl hp)).1
  | refreshed hp =>
    refine h.answered _ hp rfl rfl ?_
    have hs := (h.of_awaitsText (.inr ⟨_, hp⟩)).1
    dsimp only [Result.after, showing]
    split
    · exact hs
    · nofun
  | unwritten cause hp | written hp | writtenLate hp => exact h.answered _ hp rfl rfl nofun

/-- A whole run keeps what the session waits for. -/
theorem waits_run {s : Session × σ} {requests : List Request} (h : s.1.Waits requests)
    (events : List Event) : (run g s events).1.Waits (waiting g s requests events) := by
  induction events generalizing s requests with
  | nil => exact h
  | cons e events ih => exact ih (waits_outcome h (outcome_step g e s))

/-- A session that has left `unloaded` does not go back in a step. -/
theorem phase_outcome {e : Event} {s : Session × σ} {r : Result σ} (ho : Outcome g e s r)
    (h : s.1.phase ≠ .unloaded) : r.after.1.phase ≠ .unloaded := by
  cases ho with
  | refused | startedLoad | startedRefresh | unsaved | selected | uncommitted | unplaced | strayed
  | unread | discarded | unshown => exact h
  | startedSave | loaded | unwritten | written | writtenLate => nofun
  | moved =>
    dsimp only [Result.after]
    split <;> nofun
  | refreshed =>
    dsimp only [Result.after, showing]
    split
    · exact h
    · nofun

/-- A session that has been loaded stays so along every run. -/
theorem phase_run {s : Session × σ} (h : s.1.phase ≠ .unloaded) (events : List Event) :
    (run g s events).1.phase ≠ .unloaded := by
  induction events generalizing s with
  | nil => exact h
  | cons e events ih => exact ih (phase_outcome (outcome_step g e s) h)

/-- A request that fails to start leaves an idle session idle. -/
theorem Session.Waits.idle_of_failed {s s' : Session × σ} {requests : List Request}
    (h : s.1.Waits requests) (hs : ¬ s.1.Busy) {r : Request} {cause : SessionError}
    (he : r.event.step g s = .error cause s') : ¬ s'.1.Busy := by
  have hw := waits_outcome h (outcome_step g r.event s)
  have hr : r.event.waiting (.error cause s') requests = requests := by cases r <;> rfl
  rw [he, hr] at hw
  exact hw.not_busy_iff.2 (h.not_busy_iff.1 hs)

/-- The answer of the host to the request that waits leaves the session idle, whatever it is. -/
theorem Session.Waits.idle_of_answer {s : Session × σ} {requests : List Request}
    (h : s.1.Waits requests) {r : Request} (hr : r ∈ requests) {e : Event}
    (he : e.answers r = true) : ¬ (e.next g s).1.Busy := by
  have hw := waits_outcome h (outcome_step g e s)
  obtain ⟨p, hp, rfl⟩ := h.mem_iff.1 hr
  rw [h.waiting_answered hp he] at hw
  exact hw.not_busy_iff.2 rfl

/-- **At most one request waits for the host.** After every run, with any generator: the session is
busy just when one request waits, and saving just when that is a save; while it is busy every
request is refused and nothing changes; every answer to the request that waits leaves it idle,
whether the step succeeds or fails, and so does a request that fails to start; and once a file has
been loaded the session is never unloaded again. -/
theorem one_request_waits (g : Generator σ) (seed : σ) (events : List Event) :
    let s := run g (start, seed) events
    let requests := waiting g (start, seed) [] events
    (s.1.Busy ↔ ∃ r, requests = [r]) ∧ (¬ s.1.Busy ↔ requests = []) ∧
    (s.1.phase = .saving ↔ requests = [.save]) ∧
    (s.1.Busy → ∀ r : Request, ∃ cause, r.event.step g s = .error cause s ∧
      (cause = .busy r.action ∨ r ≠ .load ∧ cause = .notLoaded r.action)) ∧
    (∀ r ∈ requests, ∀ e : Event, e.answers r = true → ¬ (e.next g s).1.Busy) ∧
    (¬ s.1.Busy → ∀ (r : Request) (cause : SessionError) (s' : Session × σ),
      r.event.step g s = .error cause s' → ¬ s'.1.Busy) ∧
    (s.1.phase ≠ .unloaded → ∀ more, (run g s more).1.phase ≠ .unloaded) := by
  intro s requests
  have h : s.1.Waits requests := waits_run waits_start events
  refine ⟨h.busy_iff, h.not_busy_iff, h.saving_iff_waiting, fun hb r => ?_,
    fun r hr e he => h.idle_of_answer hr he, fun hs r cause s' he => h.idle_of_failed hs he,
    phase_run⟩
  obtain ⟨cause, hr, he⟩ := hb.refuses g s.2 r
  exact ⟨cause, he, hr.of_request⟩

/-- A save waits for its write while a second save and a refresh are refused. -/
example :
    let events : List Event :=
      [.load, .read (.ok "CREATE TABLE a.b();"), .save, .save, .move "a.b" ⟨.whole 1, .whole 2⟩,
        .refresh]
    waiting (Generator.constant ⟨.whole 0, .whole 0⟩) (start, ()) [] events = [.save] := by
  decide +kernel

end SchemaCanvas
