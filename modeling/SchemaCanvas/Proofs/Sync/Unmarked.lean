import SchemaCanvas.Proofs.Picture.Avoiding
import SchemaCanvas.Proofs.Sync.Run

/-!
# Names that a block can hold

A block ends at the first closing mark, so a block with such a mark in a name is not whole. As long
as no table of the schemas that a session takes over has one in its name, no name that the session
may write has one: not in its diagrams, not on the canvas, not in the diagrams of a pending save
(`Session.Unmarked`, `unmarked_run`). This needs nothing of the generator.
-/

namespace SchemaCanvas

variable {σ : Type} {g : Generator σ}

namespace Session

/-- Whether no name that the session may write holds a closing mark. -/
structure Unmarked (s : Session) : Prop where
  schema : s.schema.Unmarked
  diagrams : s.diagrams.Avoids Block.commentClose
  positions : s.positions.KeysAvoid Block.commentClose
  pending : ∀ number diagrams text, s.pending = some (.save number diagrams text) →
    DiagramSet.Avoids Block.commentClose diagrams

/-- At the start there is no name to write. -/
theorem unmarked_start : start.Unmarked where
  schema := nofun
  diagrams := nofun
  positions := nofun
  pending := nofun

variable {s : Session} {diagrams : DiagramSet}

/-- With the places on the canvas written into them the diagrams have no name with a closing
mark. -/
theorem Unmarked.commits (h : s.Unmarked) (hc : s.Commits diagrams) :
    diagrams.Avoids Block.commentClose := by
  unfold Commits at hc
  split at hc
  · rw [hc]
    exact h.diagrams
  · obtain ⟨d, hd, rfl⟩ := hc
    exact h.diagrams.insert ((h.diagrams.of_get? hd).materialize h.positions) _

/-- The diagrams that a selection goes on with have no name with a closing mark. -/
theorem Unmarked.leaves (h : s.Unmarked) (hl : s.Leaves diagrams) :
    diagrams.Avoids Block.commentClose := by
  rcases hl with ⟨-, hc⟩ | ⟨-, rfl⟩
  · exact h.commits hc
  · exact h.diagrams

end Session

open Session

/-- One step brings in no name but those of the schema after it. -/
theorem unmarked_outcome {e : Event} {s : Session × σ} {r : Result σ} (h : s.1.Unmarked)
    (ho : Outcome g e s r) (hs : r.after.1.schema.Unmarked) : r.after.1.Unmarked := by
  cases ho with
  | refused => exact h
  | startedLoad | startedRefresh => exact ⟨h.schema, h.diagrams, h.positions, nofun⟩
  | startedSave _ _ hc hf =>
    refine ⟨h.schema, h.diagrams, h.positions, fun number diagrams text hp => ?_⟩
    cases hp
    exact (h.commits hc).of_fill hf
  | unsaved | uncommitted => exact ⟨h.schema, h.diagrams, h.positions, h.pending⟩
  | selected _ _ hl hr =>
    exact ⟨h.schema, h.leaves hl, DiagramSet.keysAvoid_of_resolve h.schema hr, h.pending⟩
  | unplaced _ _ hl => exact ⟨h.schema, h.leaves hl, h.positions, h.pending⟩
  | moved _ hm | strayed _ hm =>
    refine ⟨h.schema, h.diagrams, fun name hn => ?_, h.pending⟩
    rcases Registry.mem_keys_insert.1 hn with rfl | hn
    · exact h.positions _ hm
    · exact h.positions _ hn
  | unread | discarded | unwritten | writtenLate =>
    exact ⟨h.schema, h.diagrams, h.positions, nofun⟩
  | loaded _ hf _ hr =>
    exact ⟨hs, Loaded.avoids_ofText hf hs, DiagramSet.keysAvoid_of_resolve hs hr, nofun⟩
  | unshown _ hf => exact ⟨hs, Loaded.avoids_ofText hf hs, h.positions, nofun⟩
  | refreshed _ hc _ hr =>
    obtain ⟨hdiagrams, hpositions⟩ := (h.commits hc).of_refresh hs hr
    exact ⟨hs, hdiagrams, hpositions, nofun⟩
  | written hp => exact ⟨h.schema, h.pending _ _ _ hp, h.positions, nofun⟩

/-- A run brings in no name but those of the schemas on its way. -/
theorem unmarked_run {s : Session × σ} (h : s.1.Unmarked) {events : List Event}
    (hs : ∀ past, past <+: events → (run g s past).1.schema.Unmarked) :
    (run g s events).1.Unmarked := by
  induction events generalizing s with
  | nil => exact h
  | cons e events ih =>
    have hnext := unmarked_outcome h (outcome_step g e s) (hs [e] (List.prefix_append [e] events))
    exact ih hnext fun past hp => hs (e :: past) ((List.prefix_cons_inj e).2 hp)

end SchemaCanvas
