import SchemaCanvas.Proofs.Picture.Fitting
import SchemaCanvas.Proofs.Sync.Run

/-!
# Sessions whose layout can be read again

As long as the names in the texts that are read fit into lines, and tables are put and moved to
places of double precision only, all that a session may write can be read again: its diagrams with
the places on the canvas, and the diagrams of a pending save (`Session.Fit`, `fit_run`).
-/

namespace SchemaCanvas

variable {σ : Type} {g : Generator σ}

/-- Whether the names in a text that is read fit into lines, with no empty name of a diagram among
them, and whether a table is moved to a place of double precision. -/
def Event.Fits : Event → Prop
  | .read (.ok text) => (Schema.ofText text).1.Fits ∧
      ∀ diagrams ws, Block.readText text = .ok (some diagrams, ws) → "" ∉ diagrams.keys
  | .move _ position => position.Real
  | _ => True

/-- The diagrams of a file come back from the block that they are written to. -/
theorem Loaded.fit_ofText {text : String} {file : Loaded} (h : ofText text = .ok file)
    (he : (Event.read (.ok text)).Fits) : file.diagrams.Fit := by
  obtain ⟨hschema, -, block, ws, hread, hdiagrams⟩ := ofText_eq_ok h
  refine ⟨fromLines_ofText h (hschema ▸ he.1), ?_⟩
  rcases hdiagrams with ⟨rfl, -⟩ | ⟨-, hdefault⟩
  · exact he.2 file.diagrams ws hread
  · have hkeys : file.diagrams.keys = [defaultDiagramName] := by
      rw [hdefault, Registry.keys, Schema.items_defaultDiagrams]
      rfl
    rw [hkeys]
    decide

namespace Session

/-- Whether all that the session may write can be read again. -/
structure Fit (s : Session) : Prop where
  schema : s.schema.Fits
  keyed : Keyed s.schema.tables
  diagrams : s.diagrams.Fit
  positions : s.positions.FromLines
  pending : ∀ number diagrams text, s.pending = some (.save number diagrams text) →
    DiagramSet.Fit diagrams ∧ ∃ before, Block.save before diagrams = .ok text

/-- At the start there is nothing to write. -/
theorem fit_start : start.Fit where
  schema := nofun
  keyed := nofun
  diagrams := ⟨Registry.forall_empty, nofun⟩
  positions := Registry.forall_empty
  pending := nofun

variable {s : Session} {diagrams : DiagramSet}

/-- With the places on the canvas written into them the diagrams still come back from their
block. -/
theorem Fit.commits (h : s.Fit) (hc : s.Commits diagrams) : diagrams.Fit := by
  unfold Commits at hc
  split at hc
  · exact hc ▸ h.diagrams
  · obtain ⟨d, hd, rfl⟩ := hc
    exact h.diagrams.commit hd h.positions

/-- The diagrams that a selection goes on with still come back from their block. -/
theorem Fit.leaves (h : s.Fit) (hl : s.Leaves diagrams) : diagrams.Fit := by
  rcases hl with ⟨-, hc⟩ | ⟨-, rfl⟩
  · exact h.commits hc
  · exact h.diagrams

/-- A table on the canvas may go to every place of double precision. -/
theorem Fit.insert (h : s.Fit) {table : String} (ht : table ∈ s.positions.keys) {p : Position}
    (hp : p.Real) : Positions.FromLines (s.positions.insert table p) := by
  obtain ⟨old, hold⟩ := Registry.exists_get? ht
  exact Registry.Forall.insert h.positions ((h.positions table old hold).place rfl hp)

end Session

open Session

/-- One step keeps all that a session may write readable. -/
theorem fit_outcome (hg : g.Gives Position.Real) {e : Event} {s : Session × σ} {r : Result σ}
    (h : s.1.Fit) (he : e.Fits) (ho : Outcome g e s r) : r.after.1.Fit := by
  cases ho with
  | refused => exact h
  | startedLoad | startedRefresh => exact { h with pending := nofun }
  | startedSave _ _ hc hf hb =>
    refine { h with pending := fun number diagrams text hp => ?_ }
    cases hp
    exact ⟨(h.commits hc).of_fill hg hf, _, hb⟩
  | unsaved | uncommitted => exact { h with }
  | selected _ _ hl hr =>
    have hdiagrams := h.leaves hl
    exact { h with
      diagrams := hdiagrams, positions := hdiagrams.of_resolve h.schema h.keyed hg hr }
  | unplaced _ _ hl => exact { h with diagrams := h.leaves hl }
  | moved _ hm | strayed _ hm => exact { h with positions := h.insert hm he }
  | unread | discarded | unwritten | writtenLate => exact { h with pending := nofun }
  | @loaded s t t' text name file picture _ hf _ hr =>
    have hschema := (Loaded.ofText_eq_ok hf).1
    have hfits : file.schema.Fits := hschema ▸ he.1
    have hkeyed : Keyed file.schema.tables := hschema ▸ Schema.keyed_ofText text
    have hdiagrams := Loaded.fit_ofText hf he
    exact ⟨hfits, hkeyed, hdiagrams, hdiagrams.of_resolve hfits hkeyed hg hr, nofun⟩
  | @unshown s t t' text name file cause _ hf =>
    have hschema := (Loaded.ofText_eq_ok hf).1
    exact ⟨hschema ▸ he.1, hschema ▸ Schema.keyed_ofText text, Loaded.fit_ofText hf he,
      h.positions, nofun⟩
  | @refreshed s t t' text name previous diagrams schema warnings picture _ hc hs hr =>
    obtain rfl : schema = (Schema.ofText text).1 := by rw [(Schema.ofText?_eq_ok.1 hs).1]
    have hkeyed := Schema.keyed_ofText text
    obtain ⟨hdiagrams, hpositions⟩ := (h.commits hc).of_refresh he.1 hkeyed hg hr
    exact ⟨he.1, hkeyed, hdiagrams, hpositions, nofun⟩
  | written hp => exact { h with diagrams := (h.pending _ _ _ hp).1, pending := nofun }

/-- A whole run keeps all that a session may write readable. -/
theorem fit_run (hg : g.Gives Position.Real) {s : Session × σ} (h : s.1.Fit) {events : List Event}
    (he : ∀ e ∈ events, e.Fits) : (run g s events).1.Fit := by
  induction events generalizing s with
  | nil => exact h
  | cons e events ih =>
    have hnext := fit_outcome hg h (he e List.mem_cons_self) (outcome_step g e s)
    exact ih hnext fun e' he' => he e' (List.mem_cons_of_mem _ he')

end SchemaCanvas
