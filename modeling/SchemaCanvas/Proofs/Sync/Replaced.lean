import Mathlib.Data.List.Infix
import SchemaCanvas.Proofs.Layout.Spliced
import SchemaCanvas.Proofs.Sync.Hosted
import SchemaCanvas.Proofs.Sync.Unmarked

/-!
# Files that are replaced from outside

While no request waits for the host, another program may put another text into the file (`Act`). A
save does not look at the file: it writes the text that the session holds, with another block. So
what stands around the block of the file is kept just when the session's text has the same around
its block (`save_keeps_surroundings`), and that is so as long as nobody has replaced the file since
the last load, refresh or save (`upToDate`). A text that has been put into the file later is
overwritten (`save_overwrites_replacement`).
-/

namespace SchemaCanvas

open Session

variable {σ α : Type} {g : Generator σ}

/-- What happens to a session and its file: the user works, with wishes that come while a request
waits, or the file changes, or how reading and writing it go. -/
inductive Act
  | load (wishes : List Wish)
  | refresh (wishes : List Wish)
  | save (wishes : List Wish)
  | select (name : String)
  | move (table : String) (position : Position)
  /-- Another text is put into the file from outside. -/
  | replace (text : String)
  | faults (readFault writeFault : Option String) (refusesWrites : Bool)

/-- The session and its host after a step, whether it succeeds or not. -/
def Hosted.after : EStateM.Result SessionError (Hosted σ) α → Hosted σ
  | .ok _ w => w
  | .error _ w => w

/-- The session and its host after an act. -/
def Act.next (g : Generator σ) (w : Hosted σ) : Act → Hosted σ
  | .load wishes => Hosted.after (Hosted.load g wishes w)
  | .refresh wishes => Hosted.after (Hosted.refresh g wishes w)
  | .save wishes => Hosted.after (Hosted.save g wishes w)
  | .select name => { w with state := Event.next g w.state (.select name) }
  | .move table position => { w with state := Event.next g w.state (.move table position) }
  | .replace text => { w with host := { w.host with text } }
  | .faults readFault writeFault refusesWrites =>
    { w with host := { w.host with readFault, writeFault, refusesWrites } }

/-- The session and its host after a list of acts. -/
def play (g : Generator σ) (w : Hosted σ) (acts : List Act) : Hosted σ :=
  acts.foldl (Act.next g) w

/-- Whether a request for the text of the file has taken it over. -/
def Hosted.tookOver : EStateM.Result SessionError (Hosted σ) (Option Picture) → Bool
  | .ok (some _) _ => true
  | _ => false

/-- Whether a request to write the file has written it. -/
def Hosted.wrote : EStateM.Result SessionError (Hosted σ) String → Bool
  | .ok .. => true
  | .error .. => false

/-- Whether the text of the session is known to be that of the file after an act, given whether it
was before: a load, a refresh or a save makes it so, and a replacement makes it doubtful. -/
def Act.upToDate (g : Generator σ) (w : Hosted σ) (was : Bool) : Act → Bool
  | .load wishes => was || Hosted.tookOver (Hosted.load g wishes w)
  | .refresh wishes => was || Hosted.tookOver (Hosted.refresh g wishes w)
  | .save wishes => was || Hosted.wrote (Hosted.save g wishes w)
  | .replace _ => false
  | .select _ | .move .. | .faults .. => was

/-- Whether the file has not been replaced since the last load or refresh that took it over, or the
last save that wrote it. -/
def upToDate (g : Generator σ) : Hosted σ → Bool → List Act → Bool
  | _, was, [] => was
  | w, was, act :: acts => upToDate g (act.next g w) (act.upToDate g w was) acts

/-! ## What a session has of its file -/

/-- Whether a session has the same of its file as another: the same text and schema, and the same
pending request. -/
structure Session.SameFile (s s' : Session) : Prop where
  text : s'.text = s.text
  schema : s'.schema = s.schema
  pending : s'.pending = s.pending

namespace Session.SameFile

variable {s s' : Session}

/-- A session has the same of its file as itself. -/
theorem refl (s : Session) : s.SameFile s :=
  ⟨rfl, rfl, rfl⟩

/-- Having the same of a file carries over from session to session. -/
theorem trans {s'' : Session} (h : s.SameFile s') (h' : s'.SameFile s'') : s.SameFile s'' :=
  ⟨h'.text.trans h.text, h'.schema.trans h.schema, h'.pending.trans h.pending⟩

/-- A session that has the same of its file may write no name but those that it could. -/
theorem unmarked {e : Event} {s : Session × σ} (h : s.1.SameFile (e.next g s).1)
    (hu : s.1.Unmarked) : (e.next g s).1.Unmarked :=
  unmarked_outcome hu (outcome_step g e s) (h.schema ▸ hu.schema)

end Session.SameFile

/-- A selection leaves what a session has of its file. -/
theorem sameFile_select (s : Session × σ) (name : String) :
    s.1.SameFile (Event.next g s (.select name)).1 := by
  have ho := outcome_step g (.select name) s
  rw [Event.next]
  generalize Event.step g (.select name) s = r at ho ⊢
  cases ho with
  | refused => exact .refl _
  | selected | uncommitted | unplaced => exact ⟨rfl, rfl, rfl⟩

/-- A move leaves what a session has of its file. -/
theorem sameFile_move (s : Session × σ) (table : String) (position : Position) :
    s.1.SameFile (Event.next g s (.move table position)).1 := by
  have ho := outcome_step g (.move table position) s
  rw [Event.next]
  generalize Event.step g (.move table position) s = r at ho ⊢
  cases ho with
  | refused => exact .refl _
  | moved | strayed => exact ⟨rfl, rfl, rfl⟩

/-- While a request waits, what the session has of its file stays. -/
theorem sameFile_wish {s : Session × σ} (hb : s.1.Busy) (wish : Wish) :
    s.1.SameFile (wish.event.next g s).1 := by
  cases wish with
  | request r =>
    obtain ⟨cause, -, he⟩ := hb.refuses g s.2 r
    rw [Event.next, show Event.step g (Wish.request r).event s = .error cause s from he]
    exact .refl _
  | select name => exact sameFile_select s name
  | move table position => exact sameFile_move s table position

/-- While a request waits, what the session has of its file stays whatever is asked for, and so do
names without closing marks. -/
theorem sameFile_wishes {s : Session × σ} (hb : s.1.Busy) (hu : s.1.Unmarked)
    (wishes : List Wish) :
    s.1.SameFile (run g s (wishes.map Wish.event)).1 ∧
      (run g s (wishes.map Wish.event)).1.Unmarked := by
  induction wishes generalizing s with
  | nil => exact ⟨.refl _, hu⟩
  | cons wish wishes ih =>
    have hsame := sameFile_wish (g := g) hb wish
    have hbusy : (wish.event.next g s).1.Busy := by
      rw [Busy, hsame.pending]
      exact hb
    obtain ⟨hrest, hunmarked⟩ := ih hbusy (hsame.unmarked hu)
    exact ⟨hsame.trans hrest, hunmarked⟩

/-! ## One act -/

/-- A text that is read becomes the session's, or the session keeps its own and shows no picture. -/
theorem text_of_read (answer : Except String String) (s : Session × σ) :
    answer = .ok (Result.after (finishRead g answer s)).1.text ∨
      ((Result.after (finishRead g answer s)).1.text = s.1.text ∧
        ∀ picture after, finishRead g answer s ≠ .ok (some picture) after) := by
  have ho := outcome_step g (.read answer) s
  rw [show Event.step g (.read answer) s = finishRead g answer s from rfl] at ho
  generalize finishRead g answer s = r at ho ⊢
  cases ho with
  | refused | unread | discarded => exact .inr ⟨rfl, nofun⟩
  | loaded | unshown | refreshed => exact .inl rfl

/-- What holds between acts: no name that the session may write has a closing mark, and the
session's text is that of the file if it is known to be. -/
structure Hosted.Steady (w : Hosted σ) (known : Bool) : Prop where
  unmarked : w.session.Unmarked
  text_eq : known = true → w.session.text = w.host.text

variable {w w' : Hosted σ} {known : Bool}

/-- After a step of the session the host is what it was. -/
theorem Hosted.after_asking (p : Session.Step σ (Option Picture)) (w : Hosted σ) :
    Hosted.after (Hosted.asking p w) = ⟨Result.after (p w.state), w.host⟩ := by
  rw [Hosted.asking]
  cases p w.state <;> rfl

/-- A step that shows no picture has taken nothing over. -/
theorem Hosted.tookOver_asking {p : Session.Step σ (Option Picture)}
    (h : ∀ picture after, p w.state ≠ .ok (some picture) after) :
    Hosted.tookOver (Hosted.asking p w) = false := by
  cases hr : p w.state with
  | error cause state =>
    rw [Hosted.asking_of_error hr]
    rfl
  | ok picture state =>
    rw [Hosted.asking_of_ok hr]
    cases picture with
    | none => rfl
    | some picture => exact absurd hr (h picture state)

/-- The end of a load or a refresh takes over the text of the file, or leaves the session's own. -/
theorem steady_finishRead {u : Session × σ} {host : Host} (hu : u.1.Unmarked)
    (htext : known = true → u.1.text = host.text)
    (hs : (Hosted.after
      (Hosted.asking (finishRead g host.read) ⟨u, host⟩)).session.schema.Unmarked) :
    (Hosted.after (Hosted.asking (finishRead g host.read) ⟨u, host⟩)).Steady
      (known || Hosted.tookOver (Hosted.asking (finishRead g host.read) ⟨u, host⟩)) := by
  have ho : Outcome g (.read host.read) u (finishRead g host.read u) := outcome_step ..
  rw [Hosted.after_asking] at hs ⊢
  refine ⟨unmarked_outcome hu ho hs, ?_⟩
  intro hknown
  rcases text_of_read (g := g) host.read u with hread | ⟨hsame, hnone⟩
  · exact Host.eq_of_read hread
  · rw [Hosted.tookOver_asking hnone, Bool.or_false] at hknown
    exact hsame.trans (htext hknown)

/-- So does a whole load or refresh. -/
theorem steady_fetch {begin : Step σ Unit} (hb : begin ∈ [startLoad, startRefresh])
    {wishes : List Wish} (h : w.Steady known)
    (hs : (Hosted.after (Hosted.fetch g begin wishes w)).session.schema.Unmarked) :
    (Hosted.after (Hosted.fetch g begin wishes w)).Steady
      (known || Hosted.tookOver (Hosted.fetch g begin wishes w)) := by
  obtain ⟨⟨s, t⟩, host⟩ := w
  rcases start_cases (s := s) (t := t) hb with ⟨-, p, hstart, hp⟩ | ⟨cause, hstart⟩
  · rw [Hosted.fetch_of_start hstart] at hs ⊢
    have hu : (s.relabelled (s.latest + 1) (some p)).Unmarked := by
      refine ⟨h.unmarked.schema, h.unmarked.diagrams, h.unmarked.positions, ?_⟩
      intro number diagrams text hsave
      rcases hp with rfl | ⟨name, rfl⟩ <;> cases hsave
    have hbusy : (s.relabelled (s.latest + 1) (some p)).Busy := Option.some_ne_none p
    obtain ⟨hsame, hunmarked⟩ := sameFile_wishes (g := g) (s := (_, t)) hbusy hu wishes
    exact steady_finishRead hunmarked (fun hknown => hsame.text.trans (h.text_eq hknown)) hs
  · rw [Hosted.fetch_of_error hstart]
    refine ⟨h.unmarked, ?_⟩
    intro hknown
    exact h.text_eq (by simpa [Hosted.tookOver] using hknown)

/-- A save that starts writes a whole block into the session's text, and waits with it. -/
theorem save_of_started (hu : w.session.Unmarked) {text : String} {state : Session × σ}
    (hstart : startSave g w.state = .ok text state) (wishes : List Wish) :
    ∃ block, Block.Whole block.toList ∧ Sql.Lexeme.IsComment block.toList ∧
      text = Block.spliceText w.session.text block ∧
      ∃ u filled, run g state (wishes.map Wish.event) = u ∧ u.1.Unmarked ∧
        u.1.text = w.session.text ∧
        u.1.pending = some (.save (w.session.latest + 1) filled text) := by
  obtain ⟨⟨s, t⟩, host⟩ := w
  obtain ⟨-, _, diagrams, filled, t', -, hc, hf, hb, rfl⟩ := startSave_eq_ok hstart
  obtain ⟨block, hwrite, htext⟩ := except_bind_eq_ok.1 hb
  have havoids : filled.Avoids Block.commentClose := (hu.commits hc).of_fill hf
  have hsaving : (s.saving filled text).Unmarked := by
    refine ⟨hu.schema, hu.diagrams, hu.positions, ?_⟩
    intro number diagrams text hsave
    cases hsave
    exact havoids
  have hbusy : (s.saving filled text).Busy := Option.some_ne_none _
  obtain ⟨hsame, hunmarked⟩ := sameFile_wishes (g := g) (s := (_, t')) hbusy hsaving wishes
  exact ⟨block, Block.whole_of_write hwrite havoids, Block.isComment_of_write hwrite havoids,
    (Except.ok.inj htext).symm, _, filled, rfl, hunmarked, hsame.text, hsame.pending⟩

/-- An unchanged session still has no name with a closing mark. -/
theorem Session.Unmarked.of_unchanged {s s' : Session} (hu : s.Unmarked) (h : s.Unchanged s') :
    s'.Unmarked := by
  have hlabelled : ({ s' with latest := s.latest } : Session).Unmarked := by
    rw [show ({ s' with latest := s.latest } : Session) = s from h]
    exact hu
  exact ⟨hlabelled.schema, hlabelled.diagrams, hlabelled.positions, hlabelled.pending⟩

/-- A session still has no name with a closing mark when what it saved has been written. -/
theorem Session.Unmarked.written {s : Session} (hu : s.Unmarked) {number : Nat}
    {diagrams : DiagramSet} {text : String} (hp : s.pending = some (.save number diagrams text)) :
    (s.written number diagrams text).Unmarked := by
  unfold Session.written
  split
  · exact ⟨hu.schema, hu.pending _ _ _ hp, hu.positions, nofun⟩
  · exact ⟨hu.schema, hu.diagrams, hu.positions, nofun⟩

/-- A save writes the text that the session has afterwards, or leaves both texts. -/
theorem steady_save {wishes : List Wish} (h : w.Steady known) :
    (Hosted.after (Hosted.save g wishes w)).Steady
      (known || Hosted.wrote (Hosted.save g wishes w)) := by
  cases hstart : startSave g w.state with
  | error cause state =>
    have hsame : w.session.Unchanged state.1 := startSave_eq_error hstart
    have htext : ({ state.1 with latest := w.session.latest } : Session).text = w.session.text :=
      congrArg Session.text hsame
    rw [Hosted.save_of_error hstart]
    refine ⟨h.unmarked.of_unchanged hsame, ?_⟩
    intro hknown
    exact htext.trans (h.text_eq (by simpa [Hosted.wrote] using hknown))
  | ok text state =>
    obtain ⟨-, -, -, -, u, filled, hrun, hu, htext, hpending⟩ :=
      save_of_started h.unmarked hstart wishes
    rcases Hosted.save_cases hstart hrun hpending with ⟨-, hsave⟩ | ⟨-, cause, hsave⟩
    · rw [hsave]
      exact ⟨hu.written hpending, fun _ => text_written ..⟩
    · rw [hsave]
      refine ⟨⟨hu.schema, hu.diagrams, hu.positions, nofun⟩, ?_⟩
      intro hknown
      exact htext.trans (h.text_eq (by simpa [Hosted.wrote] using hknown))

/-- One act keeps the session steady. -/
theorem steady_next {act : Act} (h : w.Steady known)
    (hs : (act.next g w).session.schema.Unmarked) :
    (act.next g w).Steady (act.upToDate g w known) := by
  cases act with
  | load wishes => exact steady_fetch (by simp) h hs
  | refresh wishes => exact steady_fetch (by simp) h hs
  | save wishes => exact steady_save h
  | select name =>
    have hsame := sameFile_select (g := g) w.state name
    exact ⟨hsame.unmarked h.unmarked, fun hknown => hsame.text.trans (h.text_eq hknown)⟩
  | move table position =>
    have hsame := sameFile_move (g := g) w.state table position
    exact ⟨hsame.unmarked h.unmarked, fun hknown => hsame.text.trans (h.text_eq hknown)⟩
  | replace text => exact ⟨h.unmarked, nofun⟩
  | faults => exact ⟨h.unmarked, h.text_eq⟩

/-! ## Lists of acts -/

/-- A list of acts keeps the session steady. -/
theorem steady_play {acts : List Act} (h : w.Steady known)
    (hs : ∀ past, past <+: acts → (play g w past).session.schema.Unmarked) :
    (play g w acts).Steady (upToDate g w known acts) := by
  induction acts generalizing w known with
  | nil => exact h
  | cons act acts ih =>
    have hnext := steady_next h (hs [act] (List.prefix_append [act] acts))
    refine ih hnext ?_
    intro past hp
    exact hs (act :: past) ((List.prefix_cons_inj act).2 hp)

/-- A save that completes puts a whole block into the text of the session, and the result into the
file. -/
theorem text_of_save (hu : w.session.Unmarked) {wishes : List Wish} {answer : String}
    (h : Hosted.save g wishes w = .ok answer w') :
    ∃ block, Block.Whole block.toList ∧ Sql.Lexeme.IsComment block.toList ∧
      w'.host.text = Block.spliceText w.session.text block := by
  obtain ⟨text, w₁, hasked, -⟩ := bind_eq_ok.1 h
  obtain ⟨hstart, -⟩ := Hosted.asking_eq_ok.1 hasked
  obtain ⟨block, hwhole, hcomment, htext, u, filled, hrun, -, -, hpending⟩ :=
    save_of_started hu hstart wishes
  rcases Hosted.save_cases hstart hrun hpending with ⟨-, hsave⟩ | ⟨-, cause, hsave⟩
  · rw [hsave] at h
    cases h
    exact ⟨block, hwhole, hcomment, htext⟩
  · rw [hsave] at h
    cases h

/-- **What a save keeps of a file that others change.** After all acts during which no table of the
session has a closing mark in its name, a save that completes puts a whole block into the text that
the session holds, and writes that. So what stands around the block of the file is kept just when
the session's text has the same around its block, which it has if the file has not been replaced
since the last load or refresh that took it over, or the last save that wrote it. When that is kept,
the file has the same tables and foreign keys as before, if its block, should it have one, is a
comment of the script. -/
theorem save_keeps_surroundings (g : Generator σ) (seed : σ) (host : Host) (acts : List Act)
    (hs : ∀ past, past <+: acts →
      (play g ⟨(start, seed), host⟩ past).session.schema.Unmarked)
    {wishes : List Wish} {answer : String} {w' : Hosted σ}
    (h : Hosted.save g wishes (play g ⟨(start, seed), host⟩ acts) = .ok answer w') :
    let w := play g ⟨(start, seed), host⟩ acts
    (∃ block, Block.Whole block.toList ∧
      w'.host.text = Block.spliceText w.session.text block) ∧
    (Block.around w'.host.text.toList = Block.around w.host.text.toList ↔
      Block.around w.session.text.toList = Block.around w.host.text.toList) ∧
    (upToDate g ⟨(start, seed), host⟩ false acts = true →
      Block.around w'.host.text.toList = Block.around w.host.text.toList) ∧
    (Block.around w'.host.text.toList = Block.around w.host.text.toList →
      (∀ l, Block.locate w.host.text.toList = some l →
        Block.Commented w.host.text.toList l) →
      (Schema.ofText w'.host.text).1 = (Schema.ofText w.host.text).1) := by
  intro w
  have hsteady : w.Steady (upToDate g ⟨(start, seed), host⟩ false acts) :=
    steady_play ⟨unmarked_start, nofun⟩ hs
  obtain ⟨block, hwhole, hcomment, htext⟩ := text_of_save hsteady.unmarked h
  have haround : Block.around w'.host.text.toList = Block.around w.session.text.toList := by
    rw [htext, Block.spliceText, String.toList_ofList, Block.around_splice hwhole]
  refine ⟨⟨block, hwhole, htext⟩, by rw [haround], ?_, ?_⟩
  · intro hknown
    rw [haround, hsteady.text_eq hknown]
  · intro hkept hc
    have hsplice : Block.spliceText w.session.text block = Block.spliceText w.host.text block := by
      rw [Block.spliceText, Block.spliceText, Block.splice_eq, Block.splice_eq, ← haround, hkept]
    rw [htext, hsplice]
    exact Block.schema_spliceText hcomment hc

/-- A file with one table. -/
def oneTable : String :=
  "CREATE TABLE a.b (c int);"

/-- The file with a second table. -/
def twoTables : String :=
  "CREATE TABLE a.b (c int);\nCREATE TABLE a.c (d int);"

/-- A table that is put into the file from outside outlives a save after a refresh. -/
theorem save_after_refresh_keeps_replacement :
    let g := Generator.constant ⟨.whole 0, .whole 0⟩
    let acts : List Act :=
      [.load [], .replace twoTables, .refresh [.request .save], .move "a.b" ⟨.whole 3, .whole 4⟩]
    let w := play g ⟨(start, ()), .ofText oneTable⟩ acts
    (∀ past, past <+: acts →
      (play g ⟨(start, ()), .ofText oneTable⟩ past).session.schema.Unmarked) ∧
    ∃ answer w', Hosted.save g [.move "a.c" ⟨.whole 5, .whole 6⟩] w = .ok answer w' ∧
      Block.around w'.host.text.toList = Block.around w.host.text.toList ∧
      (Schema.ofText w'.host.text).1 = (Schema.ofText w.host.text).1 := by
  intro g acts w
  have hs : ∀ past, past <+: acts →
      (play g ⟨(start, ()), .ofText oneTable⟩ past).session.schema.Unmarked := by
    have hall : ∀ past ∈ acts.inits,
        (play g ⟨(start, ()), .ofText oneTable⟩ past).session.schema.Unmarked := by decide +kernel
    intro past hp
    exact hall past ((List.mem_inits past acts).2 hp)
  have hknown : upToDate g ⟨(start, ()), .ofText oneTable⟩ false acts = true := by decide +kernel
  have hnone : Block.locate w.host.text.toList = none := by decide +kernel
  obtain ⟨answer, w', h, -⟩ := Hosted.exists_of_completes (p := fun _ => true)
    (r := Hosted.save g [.move "a.c" ⟨.whole 5, .whole 6⟩] w) (by decide +kernel)
  obtain ⟨-, -, hkept, htables⟩ := save_keeps_surroundings g () (.ofText oneTable) acts hs h
  refine ⟨hs, answer, w', h, hkept hknown, htables (hkept hknown) ?_⟩
  intro l hl
  rw [show Block.locate _ = none from hnone] at hl
  cases hl

/-- A file with a block that stands in a string, and a quote in the name of a table. -/
def quotedDefault : String :=
  "CREATE TABLE a.\"b'\" (c text DEFAULT '/* @erd-pets */');"

/-- A table that is put into the file after the load is overwritten by the next save; and a save
into a block that stands in a string ends the string at the quote in a name, so that the table is
lost. -/
theorem save_overwrites_replacement :
    let g := Generator.constant ⟨.whole 0, .whole 0⟩
    (let acts : List Act := [.load [], .replace twoTables]
      let w := play g ⟨(start, ()), .ofText oneTable⟩ acts
      (∀ past ∈ acts.inits, (play g ⟨(start, ()), .ofText oneTable⟩ past).session.schema.Unmarked) ∧
      (Loaded.ofText twoTables).isOk = true ∧
      ∃ answer w', Hosted.save g [] w = .ok answer w' ∧
        Block.around w'.host.text.toList ≠ Block.around w.host.text.toList ∧
        (Schema.ofText w'.host.text).1 ≠ (Schema.ofText w.host.text).1) ∧
    (let acts : List Act := [.load []]
      let w := play g ⟨(start, ()), .ofText quotedDefault⟩ acts
      (∀ past ∈ acts.inits,
        (play g ⟨(start, ()), .ofText quotedDefault⟩ past).session.schema.Unmarked) ∧
      ∃ answer w', Hosted.save g [] w = .ok answer w' ∧
        Block.around w'.host.text.toList = Block.around w.host.text.toList ∧
        (Schema.ofText w'.host.text).1 ≠ (Schema.ofText w.host.text).1) := by
  intro g
  refine ⟨?_, ?_⟩
  · intro acts w
    obtain ⟨answer, w', h, hp⟩ := Hosted.exists_of_completes
      (p := fun w' => decide
        (Block.around w'.host.text.toList ≠ Block.around w.host.text.toList ∧
          (Schema.ofText w'.host.text).1 ≠ (Schema.ofText w.host.text).1))
      (r := Hosted.save g [] w) (by decide +kernel)
    exact ⟨by decide +kernel, by decide +kernel, answer, w', h, of_decide_eq_true hp⟩
  · intro acts w
    obtain ⟨answer, w', h, hp⟩ := Hosted.exists_of_completes
      (p := fun w' => decide
        (Block.around w'.host.text.toList = Block.around w.host.text.toList ∧
          (Schema.ofText w'.host.text).1 ≠ (Schema.ofText w.host.text).1))
      (r := Hosted.save g [] w) (by decide +kernel)
    exact ⟨by decide +kernel, answer, w', h, of_decide_eq_true hp⟩

end SchemaCanvas
