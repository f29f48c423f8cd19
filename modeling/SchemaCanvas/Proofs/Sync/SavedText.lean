import Mathlib.Data.List.Infix
import SchemaCanvas.Proofs.Layout.Spliced
import SchemaCanvas.Proofs.Sync.Unmarked

/-!
# Saves keep the text that was read

What the text of a session should be can be told from a run alone: it is the text that the last load
or refresh took over, with the block that the last save since then has written in the place of its
block (`TextHistory`). Along every run with a total generator that is the text of the session, so
however often the layout is saved, and whatever becomes of the writes, the text stays what it was
around one block (`text_is_spliced`). Each save splices into the text that the one before it left;
that the two blocks do not pile up is `Block.splice_splice`.
-/

namespace SchemaCanvas

variable {σ : Type} {g : Generator σ}

/-! ## What a run tells of the text -/

/-- The text that was taken over last, and the block that has been written last since then. -/
structure TextHistory where
  read : String
  block : Option String
  deriving DecidableEq

/-- The text that a history amounts to. -/
def TextHistory.text (h : TextHistory) : String :=
  match h.block with
  | none => h.read
  | some block => Block.spliceText h.read block

/-- The block that a pending save writes. -/
def Pending.block? : Pending → Option String
  | .save _ diagrams _ => (Block.write true diagrams).toOption
  | .load _ | .refresh .. => none

/-- The history after an event with the given result: a text that is read begins another one when
the session takes it over, and a successful write puts its block in. -/
def Event.recount (r : Result σ) (s : Session) (e : Event) (h : TextHistory) : TextHistory :=
  match e, r with
  | .read (.ok text), .ok (some _) _ => ⟨text, none⟩
  | .write _, .ok .. => { h with block := s.pending.bind Pending.block? }
  | _, _ => h

/-- The history of the text after a run, given the one before it. -/
def textHistory (g : Generator σ) : Session × σ → TextHistory → List Event → TextHistory
  | _, h, [] => h
  | s, h, e :: events => textHistory g (e.next g s) (e.recount (e.step g s) s.1 h) events

/-- A step that fails adds nothing to the history. -/
theorem Event.recount_error (cause : SessionError) (after : Session × σ) (s : Session) (e : Event)
    (h : TextHistory) : e.recount (.error cause after) s h = h := by
  cases e with
  | read answer => cases answer <;> rfl
  | load | refresh | save | select | move | write => rfl

/-! ## One step -/

/-- What a history tells of a session: its text, and the text that a pending save writes. -/
structure TextHistory.Tells (h : TextHistory) (s : Session) : Prop where
  text_eq : s.text = h.text
  whole : ∀ block, h.block = some block → Block.Whole block.toList
  pending : ∀ number diagrams text, s.pending = some (.save number diagrams text) →
    ∃ block, Block.write true diagrams = .ok block ∧ text = Block.spliceText h.read block

namespace TextHistory

variable {h : TextHistory} {s s' : Session}

/-- At the start the history is empty and no save is pending. -/
theorem tells_start : TextHistory.Tells ⟨Session.start.text, none⟩ .start where
  text_eq := rfl
  whole := nofun
  pending := nofun

/-- A splice into the text of a history is one into the text that was read: it takes the place of
the block that is there. -/
theorem Tells.spliceText (ht : h.Tells s) (block : String) :
    Block.spliceText s.text block = Block.spliceText h.read block := by
  rw [ht.text_eq, text]
  cases hb : h.block with
  | none => rfl
  | some old => exact Block.spliceText_spliceText (ht.whole old hb) h.read block

/-- A history tells as much of a session with the same text and nothing new to write. -/
theorem Tells.of_text (ht : h.Tells s) (htext : s'.text = s.text)
    (hp : s'.pending = s.pending ∨ ∀ number diagrams text,
      s'.pending ≠ some (.save number diagrams text)) : h.Tells s' := by
  refine ⟨htext.trans ht.text_eq, ht.whole, ?_⟩
  intro number diagrams text hsave
  rcases hp with hp | hp
  · exact ht.pending number diagrams text (hp ▸ hsave)
  · exact absurd hsave (hp number diagrams text)

/-- A session that has taken a text over has that text. -/
theorem tells_read {text : String} (htext : s.text = text) (hp : s.pending = none) :
    TextHistory.Tells ⟨text, none⟩ s where
  text_eq := htext
  whole := nofun
  pending := by
    intro number diagrams text hsave
    rw [hp] at hsave
    cases hsave

/-- A session whose pending save has been written has the text of the save. -/
theorem Tells.written (ht : h.Tells s) (hu : s.Unmarked) {number : Nat} {diagrams : DiagramSet}
    {text : String} (hsave : s.pending = some (.save number diagrams text))
    (htext : s'.text = text) (hp : s'.pending = none) :
    TextHistory.Tells { h with block := s.pending.bind Pending.block? } s' := by
  obtain ⟨block, hwrite, heq⟩ := ht.pending number diagrams text hsave
  have hblock : s.pending.bind Pending.block? = some block := by
    simp [hsave, Pending.block?, hwrite, Except.toOption]
  have hwhole := Block.whole_of_write hwrite (hu.pending number diagrams text hsave)
  rw [hblock]
  refine ⟨htext.trans heq, ?_, ?_⟩
  · intro other ho
    rwa [← Option.some.inj ho]
  · intro number diagrams text hsave
    rw [hp] at hsave
    cases hsave

end TextHistory

open Session TextHistory

/-- One step keeps a history in step with the session. -/
theorem tells_outcome (hg : g.Total) {h : TextHistory} {e : Event} {s : Session × σ} {r : Result σ}
    (ht : h.Tells s.1) (hu : s.1.Unmarked) (ho : Outcome g e s r) :
    (e.recount r s.1 h).Tells r.after.1 := by
  cases ho with
  | refused =>
    rw [Event.recount_error]
    exact ht
  | startedLoad | startedRefresh => exact ht.of_text rfl (.inr nofun)
  | startedSave _ _ _ _ hsave =>
    refine ⟨ht.text_eq, ht.whole, ?_⟩
    intro number diagrams text hp
    cases hp
    obtain ⟨block, hwrite, htext⟩ := except_bind_eq_ok.1 hsave
    exact ⟨block, hwrite, (Except.ok.inj htext).symm.trans (ht.spliceText block)⟩
  | unsaved | selected | uncommitted | unplaced | moved | strayed => exact ht.of_text rfl (.inl rfl)
  | unread =>
    rw [Event.recount_error]
    exact ht.of_text rfl (.inr nofun)
  | discarded | unwritten => exact ht.of_text rfl (.inr nofun)
  | loaded | refreshed => exact tells_read rfl rfl
  | unshown _ hf hn hr =>
    have hmem := headD_mem (Loaded.keys_ne_nil hf) defaultDiagramName
    exact absurd hr (DiagramSet.resolve_ne_error (hn ▸ hmem) hg)
  | written hp | writtenLate hp => exact ht.written hu hp rfl rfl

/-! ## Runs -/

/-- A whole run keeps a history in step with the session. -/
theorem tells_run (hg : g.Total) {h : TextHistory} {s : Session × σ} (ht : h.Tells s.1)
    (hu : s.1.Unmarked) {events : List Event}
    (hs : ∀ past, past <+: events → (run g s past).1.schema.Unmarked) :
    (textHistory g s h events).Tells (run g s events).1 := by
  induction events generalizing h s with
  | nil => exact ht
  | cons e events ih =>
    have ho := outcome_step g e s
    refine ih (tells_outcome hg ht hu ho) (unmarked_outcome hu ho ?_) ?_
    · exact hs [e] (List.prefix_append [e] events)
    · intro past hp
      exact hs (e :: past) ((List.prefix_cons_inj e).2 hp)

/-- **Saves keep the text that was read.** After every run with a total generator, in which no table
has a closing mark in its name: the text of the session is the one that the last load or refresh
took over, or that text with the block that the last save since then has written; then the block is
the one that is found in it, and what stands around it is what stands around the block of the text
that was read. A save that is pending writes such a text, too. -/
theorem text_is_spliced (hg : g.Total) (seed : σ) (events : List Event)
    (hs : ∀ past, past <+: events → (run g (start, seed) past).1.schema.Unmarked) :
    let s := (run g (start, seed) events).1
    let h := textHistory g (start, seed) ⟨start.text, none⟩ events
    (h.block = none → s.text = h.read) ∧
    (∀ block, h.block = some block → s.text = Block.spliceText h.read block ∧
      ∃ l, Block.locate s.text.toList = some l ∧ l.block = block.toList ∧
        (l.before, l.after) = Block.around h.read.toList) ∧
    (∀ number diagrams text, s.pending = some (.save number diagrams text) →
      ∃ block, Block.write true diagrams = .ok block ∧ text = Block.spliceText h.read block) := by
  intro s h
  have ht : h.Tells s := tells_run hg tells_start unmarked_start hs
  refine ⟨?_, ?_, ht.pending⟩
  · intro hb
    rw [ht.text_eq, TextHistory.text, hb]
  · intro block hb
    have htext : s.text = Block.spliceText h.read block := by
      rw [ht.text_eq, TextHistory.text, hb]
    obtain ⟨opening, content, hlocate⟩ := ht.whole block hb
    have hfound : Block.locate s.text.toList = some
        ⟨(Block.around h.read.toList).1, opening, content, (Block.around h.read.toList).2⟩ := by
      rw [htext, Block.spliceText, String.toList_ofList]
      exact Block.locate_splice hlocate h.read.toList
    exact ⟨htext, _, hfound, Block.block_of_locate hlocate, rfl⟩

/-- A file with two blocks, and an opening that is never closed. -/
def twoBlocks : String :=
  "CREATE TABLE a.b(); /* @erd-pets\n[main]\na.b 1 2\n*/ /* @erd-pets\n[old]\n*/ /* @erd-pets"

/-- A save, a save that a move supersedes, and a save that is refused leave the second block and the
opening behind it alone. -/
theorem text_of_three_saves :
    let g := Generator.constant ⟨.whole 0, .whole 0⟩
    let events : List Event :=
      [.load, .read (.ok twoBlocks), .save, .write .written, .move "a.b" ⟨.whole 3, .whole 4⟩,
        .save, .move "a.b" ⟨.whole 5, .whole 6⟩, .write .written, .save, .write .refused]
    let s := (run g (start, ()) events).1
    (∀ past, past <+: events → (run g (start, ()) past).1.schema.Unmarked) ∧
    ∃ block, s.text = Block.spliceText twoBlocks block ∧
      ∃ l, Block.locate s.text.toList = some l ∧ l.block = block.toList ∧
        (l.before, l.after) = Block.around twoBlocks.toList := by
  intro g events s
  have hs : ∀ past, past <+: events → (run g (start, ()) past).1.schema.Unmarked := by
    have hall : ∀ past ∈ events.inits, (run g (start, ()) past).1.schema.Unmarked := by
      decide +kernel
    intro past hp
    exact hall past ((List.mem_inits past events).2 hp)
  have hblock : textHistory g (start, ()) ⟨start.text, none⟩ events
      = ⟨twoBlocks, some "/* @erd-pets\n[main]\na.b 3 4\n*/"⟩ := by decide +kernel
  obtain ⟨-, hwritten, -⟩ := text_is_spliced (Generator.total_constant _) () events hs
  rw [hblock] at hwritten
  exact ⟨hs, _, hwritten _ rfl⟩

end SchemaCanvas
