import SchemaCanvas.Proofs.File.Loaded
import SchemaCanvas.Proofs.Picture.Shown
import SchemaCanvas.Proofs.Sync.Outcome

/-!
# Runs of a session

A run is a list of events, one step after another from the session before its file is loaded. Along
every run with a total generator a session stays sound (`Session.Sound`, `sound_run`): the diagram
on the canvas is one of the diagrams, the tables on the canvas are in the schema, and a pending
request that no later selection or move has superseded is about the diagram that is still on the
canvas.
-/

namespace SchemaCanvas

variable {σ : Type}

/-- The session and the generator's state after an event. -/
def Event.next (g : Generator σ) (s : Session × σ) (e : Event) : Session × σ :=
  Result.after (e.step g s)

/-- The session and the generator's state after a run. -/
def Session.run (g : Generator σ) (s : Session × σ) (events : List Event) : Session × σ :=
  events.foldl (Event.next g) s

/-- A run starts with its first event. -/
theorem Session.run_cons (g : Generator σ) (s : Session × σ) (e : Event) (events : List Event) :
    Session.run g s (e :: events) = Session.run g (e.next g s) events := rfl

/-- A run that goes on is the second part of it, from where the first one ends. -/
theorem Session.run_append (g : Generator σ) (s : Session × σ) (events more : List Event) :
    Session.run g s (events ++ more) = Session.run g (Session.run g s events) more :=
  List.foldl_append

/-- The number of a pending request. -/
def Pending.number : Pending → Nat
  | .load number => number
  | .refresh number _ => number
  | .save number _ _ => number

/-- What holds of a session along every run. -/
structure Session.Sound (s : Session) : Prop where
  active_mem : ∀ name, s.active = some name → name ∈ s.diagrams.keys
  known : ∀ table ∈ s.positions.keys, s.schema.contains table = true
  number_le : ∀ p, s.pending = some p → p.number ≤ s.latest
  refresh_active : ∀ name, s.pending = some (.refresh s.latest name) → s.active = some name
  save_active : ∀ diagrams text name, s.pending = some (.save s.latest diagrams text) →
    s.active = some name → name ∈ diagrams.keys

namespace Session

variable {s : Session}

/-- The session at the start is sound. -/
theorem sound_start : start.Sound where
  active_mem := nofun
  known := nofun
  number_le := nofun
  refresh_active := nofun
  save_active := nofun

/-- The next number is given to no pending request. -/
theorem Sound.number_ne (h : s.Sound) {p : Pending} (hp : s.pending = some p) :
    p.number ≠ s.latest + 1 := by
  have := h.number_le p hp
  omega

/-- Committing keeps the diagrams under their names and in their order. -/
theorem Commits.keys {diagrams : DiagramSet} (h : s.Commits diagrams) :
    diagrams.keys = s.diagrams.keys := by
  unfold Commits at h
  split at h
  · rw [h]
  · obtain ⟨d, hd, rfl⟩ := h
    rw [Registry.keys_insert, if_pos (Registry.mem_keys_of_get? hd)]

/-- A selection goes on with the same diagrams by name and order. -/
theorem Leaves.keys {diagrams : DiagramSet} (h : s.Leaves diagrams) :
    diagrams.keys = s.diagrams.keys := by
  rcases h with ⟨-, h⟩ | ⟨-, rfl⟩
  · exact h.keys
  · rfl

/-- Without a pending request nothing is asked of one. -/
theorem Sound.of_idle (hp : s.pending = none)
    (ha : ∀ name, s.active = some name → name ∈ s.diagrams.keys)
    (hk : ∀ table ∈ s.positions.keys, s.schema.contains table = true) : s.Sound where
  active_mem := ha
  known := hk
  number_le := by rw [hp]; nofun
  refresh_active := by rw [hp]; nofun
  save_active := by rw [hp]; nofun

/-- A selection or a move supersedes the pending request, so nothing more is asked of it. -/
theorem Sound.of_counted {s' : Session} (h : s.Sound) (hl : s'.latest = s.latest + 1)
    (hp : s'.pending = s.pending)
    (ha : ∀ name, s'.active = some name → name ∈ s'.diagrams.keys)
    (hk : ∀ table ∈ s'.positions.keys, s'.schema.contains table = true) : s'.Sound where
  active_mem := ha
  known := hk
  number_le := fun p he => by
    have := h.number_le p (hp ▸ he)
    omega
  refresh_active := fun name he => by
    rw [hp, hl] at he
    exact absurd rfl (h.number_ne he)
  save_active := fun diagrams text name he => by
    rw [hp, hl] at he
    exact absurd rfl (h.number_ne he)

end Session

/-- The first of some names is one of them. -/
theorem headD_mem {names : List String} (h : names ≠ []) (standard : String) :
    names.headD standard ∈ names := by
  cases names with
  | nil => exact absurd rfl h
  | cons name names => exact List.mem_cons_self ..

open Session

/-- One step keeps a session sound. -/
theorem sound_outcome {g : Generator σ} (hg : g.Total) {e : Event} {s : Session × σ} {r : Result σ}
    (h : s.1.Sound) (ho : Outcome g e s r) : r.after.1.Sound := by
  cases ho with
  | refused => exact h
  | startedLoad =>
    exact ⟨h.active_mem, h.known, fun p hp => by cases hp; exact Nat.le_refl _, nofun, nofun⟩
  | startedRefresh hs =>
    refine ⟨h.active_mem, h.known, fun p hp => by cases hp; exact Nat.le_refl _, ?_, nofun⟩
    intro name hp
    cases hp
    exact hs.2
  | startedSave hs hi hc hf hb =>
    refine ⟨h.active_mem, h.known, fun p hp => by cases hp; exact Nat.le_refl _, nofun, ?_⟩
    intro diagrams text name hp ha
    cases hp
    rw [DiagramSet.keys_of_fill hf, hc.keys]
    exact h.active_mem name ha
  | unsaved => exact h.of_counted rfl rfl h.active_mem h.known
  | @selected s t t' active name diagrams picture hs hn hl hr =>
    obtain ⟨d, positions, hd, hp, -, hpos, hk⟩ := DiagramSet.resolve_eq_ok hr
    refine h.of_counted rfl rfl ?_ ?_
    · intro name' ha
      cases ha
      exact hl.keys ▸ hn
    · intro table ht
      exact hk table (hpos ▸ ht)
  | uncommitted => exact h.of_counted rfl rfl h.active_mem h.known
  | unplaced hs hn hl hr => exact absurd hr (DiagramSet.resolve_ne_error (hl.keys ▸ hn) hg)
  | @moved s t name table position hs hm hk =>
    refine h.of_counted rfl rfl h.active_mem ?_
    intro other ho
    rcases Registry.mem_keys_insert.1 ho with rfl | ho
    · exact hk _ hm
    · exact hk _ ho
  | @strayed s t name table other position hs hm ho hc =>
    have := h.known other ho
    rw [hc] at this
    cases this
  | unread => exact .of_idle rfl h.active_mem h.known
  | discarded => exact .of_idle rfl h.active_mem h.known
  | loaded hp hf hn hr =>
    obtain ⟨d, positions, hd, hpl, -, hpos, hk⟩ := DiagramSet.resolve_eq_ok hr
    refine .of_idle rfl ?_ ?_
    · intro name ha
      cases ha
      exact Registry.mem_keys_of_get? hd
    · intro table ht
      exact hk table (hpos ▸ ht)
  | unshown hp hf hn hr =>
    have hmem := headD_mem (Loaded.keys_ne_nil hf) defaultDiagramName
    exact absurd hr (DiagramSet.resolve_ne_error (hn ▸ hmem) hg)
  | @refreshed s t t' text name previous diagrams schema warnings picture hp hc hs hr =>
    obtain ⟨d, positions, hd, hpl, -, hpos, hk, rfl⟩ := DiagramSet.refresh_eq_ok hr
    refine .of_idle rfl ?_ ?_
    · intro other ha
      refine Registry.mem_keys_insert.2 (.inr ?_)
      rw [hc.keys]
      exact h.active_mem other ha
    · intro table ht
      exact hk table (hpos ▸ ht)
  | unwritten => exact .of_idle rfl h.active_mem h.known
  | @written s t diagrams text hp =>
    exact .of_idle rfl (fun name ha => h.save_active diagrams text name hp ha) h.known
  | writtenLate => exact .of_idle rfl h.active_mem h.known

/-- A whole run keeps a session sound. -/
theorem sound_run {g : Generator σ} (hg : g.Total) {s : Session × σ} (h : s.1.Sound)
    (events : List Event) : (Session.run g s events).1.Sound := by
  induction events generalizing s with
  | nil => exact h
  | cons e events ih => exact ih (sound_outcome hg h (outcome_step g e s))

end SchemaCanvas
