import SchemaCanvas.Proofs.Sync.Drag
import SchemaCanvas.Proofs.Sync.Hosted

/-!
# Superseded requests leave no trace

While a request waits for the host, every other request is refused, but selections and moves go on.
What they do does not depend on the pending request (`exists_next_of_draws`), so a session with a
pending request and the same session without one stay alike but for the request and its number
(`run_wishes`). Therefore a load or refresh that has been superseded leaves what the selections and
moves alone would have left, and a save writes what it was started with
(`superseded_leaves_no_trace`).
-/

namespace SchemaCanvas

open Session

variable {σ : Type} {g : Generator σ}

/-- The selections and moves among the wishes that succeed. -/
def edits (g : Generator σ) : Session × σ → List Wish → List Event
  | _, [] => []
  | s, wish :: wishes =>
    let later := edits g (wish.event.next g s) wishes
    if wish.event.draws g s then wish.event :: later else later

/-! ## Selections and moves that succeed -/

section
variable {s : Session} {t : σ}

/-- A selection succeeds as soon as there is something to go on with and its tables can be
placed. -/
theorem step_select_of_leaves {active name : String} {diagrams : DiagramSet} {picture : Picture}
    {t' : σ} (hs : s.Shows active) (hn : name ∈ s.diagrams.keys) (hl : s.Leaves diagrams)
    (hr : diagrams.resolve name s.schema g t = .ok picture t') :
    Event.step g (.select name) (s, t) = .ok (some picture)
      (({ s.counted with diagrams, active := some name }).showing picture, t') := by
  have ho := outcome_step g (.select name) (s, t)
  generalize Event.step g (.select name) (s, t) = r at ho ⊢
  cases ho with
  | refused hrefusal =>
    cases hrefusal with
    | notLoaded _ hu => exact absurd hs (hu active)
    | unknownDiagram hm => exact absurd hn hm
    | busy r he => cases r <;> cases he
  | selected _ _ hl' hr' =>
    rw [hl.eq hl', hr'] at hr
    cases hr
    rw [hl.eq hl']
  | uncommitted _ hs' hphase hm =>
    rcases hl with ⟨-, hc⟩ | ⟨hp, -⟩
    · unfold Commits at hc
      rw [hs'.2] at hc
      obtain ⟨d, hd, -⟩ := hc
      exact absurd (Registry.mem_keys_of_get? hd) hm
    · exact absurd hphase hp
  | unplaced _ _ hl' hr' =>
    rw [hl.eq hl', hr'] at hr
    cases hr

/-- A move succeeds as soon as its table is on the canvas and the schema has all tables there. -/
theorem step_move_of_known {name table : String} (hs : s.Shows name)
    (hm : table ∈ s.positions.keys)
    (hk : ∀ other ∈ s.positions.keys, s.schema.contains other = true) (position : Position) :
    Event.step g (.move table position) (s, t)
      = .ok (some (Picture.draw s.schema (s.positions.insert table position)))
          ({ s.counted with
            positions := s.positions.insert table position
            picture := Picture.draw s.schema (s.positions.insert table position)
            phase := if s.phase = .saving then .saving else .dirty }, t) := by
  have ho := outcome_step g (.move table position) (s, t)
  generalize Event.step g (.move table position) (s, t) = r at ho ⊢
  cases ho with
  | refused hrefusal =>
    cases hrefusal with
    | notLoaded _ hu => exact absurd hs (hu name)
    | notOnDiagram hn => exact absurd hm hn
    | busy r he => cases r <;> cases he
  | moved => rfl
  | strayed _ _ ho hc =>
    rw [hk _ ho] at hc
    cases hc

/-- What an edit does depends neither on the number of the latest request nor on the pending one. -/
theorem exists_next_of_draws {wish : Wish} (hd : wish.event.draws g (s, t) = true) :
    ∃ (s' : Session) (t' : σ), ∀ latest pending,
      wish.event.next g (s.relabelled latest pending, t)
        = (s'.relabelled (latest + 1) pending, t') := by
  obtain ⟨picture, after, he⟩ := Event.exists_of_draws hd
  have ho := outcome_step g wish.event (s, t)
  rw [he] at ho
  cases wish with
  | request r => cases r <;> cases ho
  | select name =>
    cases ho with
    | @selected _ _ t' active _ diagrams _ hs hn hl hr =>
      refine ⟨({ s with diagrams, active := some name }).showing picture, t', ?_⟩
      intro latest pending
      have hstep := step_select_of_leaves (s := s.relabelled latest pending) hs hn hl hr
      rw [Event.next, Wish.event, hstep]
      rfl
  | move table position =>
    cases ho with
    | moved hs hm hk =>
      refine ⟨{ s with
        positions := s.positions.insert table position
        picture := Picture.draw s.schema (s.positions.insert table position)
        phase := if s.phase = .saving then Phase.saving else .dirty }, t, ?_⟩
      intro latest pending
      have hstep := step_move_of_known (g := g) (t := t) (s := s.relabelled latest pending)
        hs hm hk position
      rw [Event.next, Wish.event, hstep]
      rfl

end

/-! ## Wishes while a request waits -/

/-- With a total generator a wish that does not succeed while a request waits changes nothing, not
even the number of the latest request. -/
theorem next_of_not_draws (hg : g.Total) {s : Session × σ} (hs : s.1.Sound) (hb : s.1.Busy)
    {wish : Wish} (hd : wish.event.draws g s = false) : wish.event.next g s = s := by
  have hnot : ∀ picture after, wish.event.step g s ≠ .ok (some picture) after := by
    intro picture after he
    rw [Event.draws_of_step he] at hd
    cases hd
  have ho := outcome_step g wish.event s
  rw [Event.next]
  cases wish with
  | request r =>
    obtain ⟨cause, -, he⟩ := hb.refuses g s.2 r
    rw [show Event.step g (Wish.request r).event s = .error cause s from he]
    rfl
  | select name =>
    generalize Event.step g (Wish.select name).event s = r at ho hnot ⊢
    cases ho with
    | refused => rfl
    | selected => exact absurd rfl (hnot _ _)
    | uncommitted _ hshows _ hm => exact absurd (hs.active_mem _ hshows.2) hm
    | unplaced _ hn hl hr => exact absurd hr (DiagramSet.resolve_ne_error (hl.keys ▸ hn) hg)
  | move table position =>
    generalize Event.step g (Wish.move table position).event s = r at ho hnot ⊢
    cases ho with
    | refused => rfl
    | moved => exact absurd rfl (hnot _ _)
    | strayed _ _ ho hc =>
      rw [hs.known _ ho] at hc
      cases hc

/-- While a request waits, a session stays like the one without the request that makes only the
edits that succeed: they differ in the request and in their numbers. -/
theorem run_wishes (hg : g.Total) {s : Session} {t : σ} {latest : Nat} {p : Pending}
    (hs : (s.relabelled latest (some p)).Sound) (wishes : List Wish) :
    let made := edits g (s.relabelled latest (some p), t) wishes
    ∃ (s' : Session) (t' : σ),
      run g (s.relabelled latest (some p), t) (wishes.map Wish.event)
        = (s'.relabelled (latest + made.length) (some p), t') ∧
      ∀ number, run g (s.relabelled number none, t) made
        = (s'.relabelled (number + made.length) none, t') := by
  induction wishes generalizing s t latest with
  | nil => exact ⟨s, t, rfl, fun _ => rfl⟩
  | cons wish wishes ih =>
    have hnext : (wish.event.next g (s.relabelled latest (some p), t)).1.Sound :=
      sound_outcome hg hs (outcome_step ..)
    rw [List.map_cons, run_cons, edits]
    cases hd : wish.event.draws g (s.relabelled latest (some p), t) with
    | true =>
      obtain ⟨s', t', hedit⟩ := exists_next_of_draws hd
      have hbusy : wish.event.next g (s.relabelled latest (some p), t)
          = (s'.relabelled (latest + 1) (some p), t') :=
        hedit latest (some p)
      have hidle : ∀ number, wish.event.next g (s.relabelled number none, t)
          = (s'.relabelled (number + 1) none, t') :=
        fun number => hedit number none
      rw [hbusy] at hnext
      rw [if_pos rfl, hbusy]
      obtain ⟨s'', t'', hrun, halone⟩ := ih hnext
      refine ⟨s'', t'', ?_, ?_⟩
      · rw [hrun, List.length_cons, Nat.add_right_comm, Nat.add_assoc]
      · intro number
        rw [run_cons, hidle, halone, List.length_cons, Nat.add_right_comm, Nat.add_assoc]
    | false =>
      have hbusy : (s.relabelled latest (some p)).Busy := Option.some_ne_none p
      rw [if_neg nofun, next_of_not_draws hg hs hbusy hd]
      exact ih hs

/-- Wishes of which none succeeds change nothing. -/
theorem run_wishes_of_nil (hg : g.Total) {s : Session} {t : σ} {latest : Nat} {p : Pending}
    {wishes : List Wish} (hs : (s.relabelled latest (some p)).Sound)
    (hnil : edits g (s.relabelled latest (some p), t) wishes = []) :
    run g (s.relabelled latest (some p), t) (wishes.map Wish.event)
      = (s.relabelled latest (some p), t) := by
  obtain ⟨s', t', hrun, halone⟩ := run_wishes hg (t := t) hs wishes
  rw [hnil] at hrun halone
  obtain ⟨hsession, rfl⟩ := Prod.mk.inj (halone latest)
  rw [hrun]
  exact congrArg (fun u => (u.relabelled latest (some p), t)) hsession.symm

/-! ## Requests with wishes -/

/-- Starting a request for the text of the file keeps a session sound. -/
theorem sound_of_start (hg : g.Total) {s : Session × σ} (hs : s.1.Sound) {begin : Step σ Unit}
    (hb : begin ∈ [startLoad, startRefresh]) {after : Session × σ} (h : begin s = .ok () after) :
    after.1.Sound := by
  rcases List.mem_pair.1 hb with rfl | rfl
  · have ho := outcome_step g .load s
    rw [show Event.step g .load s = .ok none after from bind_of_ok h] at ho
    exact sound_outcome hg hs ho
  · have ho := outcome_step g .refresh s
    rw [show Event.step g .refresh s = .ok none after from bind_of_ok h] at ho
    exact sound_outcome hg hs ho

/-- Starting a save keeps a session sound. -/
theorem sound_of_startSave (hg : g.Total) {s : Session × σ} (hs : s.1.Sound) {text : String}
    {after : Session × σ} (h : startSave g s = .ok text after) : after.1.Sound := by
  have ho := outcome_step g .save s
  rw [show Event.step g .save s = .ok none after from bind_of_ok h] at ho
  exact sound_outcome hg hs ho

section
variable {w w₁ w' : Hosted σ} {wishes : List Wish}

/-- A load or a refresh that has been superseded by edits leaves the session as the edits alone
would have left it. -/
theorem fetch_of_superseded (hg : g.Total) (hs : w.session.Sound) {begin : Step σ Unit}
    (hb : begin ∈ [startLoad, startRefresh]) (h : Hosted.asking begin w = .ok () w₁)
    (hmade : edits g w₁.state wishes ≠ []) {text : String} (hread : w.host.read = .ok text) :
    ∃ w', Hosted.fetch g begin wishes w = .ok none w' ∧ w'.host = w.host ∧
      (run g w.state (edits g w₁.state wishes)).1.Unchanged w'.session ∧
      w'.state.2 = (run g w.state (edits g w₁.state wishes)).2 := by
  obtain ⟨⟨s, t⟩, host⟩ := w
  obtain ⟨hstart, -⟩ := Hosted.asking_eq_ok.1 h
  have hsound := sound_of_start hg hs hb hstart
  obtain ⟨hi, p, hstate, hp⟩ := start_eq_ok hb hstart
  rw [hstate] at hstart hsound hmade ⊢
  generalize hm : edits g (s.relabelled (s.latest + 1) (some p), t) wishes = made at hmade ⊢
  obtain ⟨s', t', hrun, halone⟩ := run_wishes hg (t := t) hsound wishes
  rw [hm] at hrun halone
  have hidle : run g (s, t) made = (s'.relabelled (s.latest + made.length) none, t') := by
    have hs : s.relabelled s.latest none = s := by
      rw [← hi]
      rfl
    have halone := halone s.latest
    rwa [hs] at halone
  have hawaits : (s'.relabelled (s.latest + 1 + made.length) (some p)).AwaitsText
      (s.latest + 1) := by
    rcases hp with rfl | ⟨name, rfl⟩
    · exact .inl rfl
    · exact .inr ⟨name, rfl⟩
  have hlate : s.latest + 1 ≠ (s'.relabelled (s.latest + 1 + made.length) (some p)).latest := by
    have hlength := List.length_pos_iff.2 hmade
    show s.latest + 1 ≠ s.latest + 1 + made.length
    omega
  refine ⟨⟨(s'.relabelled (s.latest + 1 + made.length) none, t'), host⟩, ?_, rfl, ?_, ?_⟩
  · rw [Hosted.fetch_of_start hstart, hrun, hread]
    exact Hosted.asking_of_ok (finishRead_of_superseded hawaits hlate text)
  · rw [hidle]
    rfl
  · rw [hidle]

/-- Wishes of which none succeeds leave no trace in a load or a refresh. -/
theorem fetch_of_no_edits (hg : g.Total) (hs : w.session.Sound) {begin : Step σ Unit}
    (hb : begin ∈ [startLoad, startRefresh]) (h : Hosted.asking begin w = .ok () w₁)
    (hmade : edits g w₁.state wishes = []) :
    Hosted.fetch g begin wishes w = Hosted.fetch g begin [] w := by
  obtain ⟨⟨s, t⟩, host⟩ := w
  obtain ⟨hstart, -⟩ := Hosted.asking_eq_ok.1 h
  have hsound := sound_of_start hg hs hb hstart
  obtain ⟨-, p, hstate, -⟩ := start_eq_ok hb hstart
  rw [hstate] at hstart hsound hmade
  rw [Hosted.fetch_of_start hstart, Hosted.fetch_of_start hstart, run_wishes_of_nil hg hsound hmade]
  rfl

/-- Wishes of which none succeeds leave no trace in a save. -/
theorem save_of_no_edits (hg : g.Total) (hs : w.session.Sound) {text : String}
    (h : Hosted.asking (startSave g) w = .ok text w₁) (hmade : edits g w₁.state wishes = []) :
    Hosted.save g wishes w = Hosted.save g [] w := by
  obtain ⟨⟨s, t⟩, host⟩ := w
  obtain ⟨hstart, -⟩ := Hosted.asking_eq_ok.1 h
  have hsound := sound_of_startSave hg hs hstart
  obtain ⟨-, _, _, filled, t', -, -, -, -, hstate⟩ := startSave_eq_ok hstart
  rw [hstate] at hstart hsound hmade
  have hrun : run g (s.saving filled text, t') (wishes.map Wish.event)
      = (s.saving filled text, t') :=
    run_wishes_of_nil (s := { s with phase := .saving }) hg hsound hmade
  rw [Hosted.save_of_start hstart, Hosted.save_of_start hstart, hrun]
  rfl

/-- A save that has started ends with its text just when the host makes the write. After edits the
session keeps what it had when the write finished. -/
theorem save_with_wishes (hg : g.Total) (hs : w.session.Sound) {text : String}
    (h : Hosted.asking (startSave g) w = .ok text w₁) (wishes : List Wish) :
    ((w.host.write text).1 ≠ .written ∧ ∃ cause w', Hosted.save g wishes w = .error cause w') ∨
      ((w.host.write text).1 = .written ∧ ∃ w', Hosted.save g wishes w = .ok text w' ∧
        w'.host = { w.host with text } ∧ w'.session.text = text ∧
        (edits g w₁.state wishes ≠ [] → w'.session =
          { (run g w₁.state (wishes.map Wish.event)).1 with
            pending := none, text, phase := .dirty })) := by
  obtain ⟨⟨s, t⟩, host⟩ := w
  obtain ⟨hstart, -⟩ := Hosted.asking_eq_ok.1 h
  have hsound := sound_of_startSave hg hs hstart
  obtain ⟨-, _, _, filled, t', -, -, -, -, hstate⟩ := startSave_eq_ok hstart
  rw [hstate] at hstart hsound ⊢
  -- The session that saves is the idle one with a request, in another phase.
  obtain ⟨s', t'', hrun⟩ : ∃ (s' : Session) (t'' : σ),
      run g (s.saving filled text, t') (wishes.map Wish.event)
        = (s'.relabelled (s.latest + 1 + (edits g (s.saving filled text, t') wishes).length)
            (some (.save (s.latest + 1) filled text)), t'') := by
    obtain ⟨s', t'', hrun, -⟩ :=
      run_wishes (s := { s with phase := .saving }) hg (t := t') hsound wishes
    exact ⟨s', t'', hrun⟩
  rcases Hosted.save_cases hstart hrun rfl with ⟨hw, hsave⟩ | ⟨hw, cause, hsave⟩
  · refine .inr ⟨hw, _, hsave, rfl, text_written .., ?_⟩
    intro hmade
    rw [hrun]
    have hlength := List.length_pos_iff.2 hmade
    refine if_neg ?_
    show s.latest + 1 ≠ s.latest + 1 + (edits g (s.saving filled text, t') wishes).length
    omega
  · exact .inl ⟨hw, cause, _, hsave⟩

end

/-- **Superseded results leave no trace.** In every session that a run with a total generator leads
to, whatever the host does and whatever comes while a request waits for it: a load or a refresh
during which edits succeed, and whose read succeeds, answers with no picture, and leaves all that
these edits alone would have left; a request during which no edit succeeds is one without wishes. A
save that completes has written the text that it started with, and answers with it; after edits the
session is dirty and keeps what it had when the write finished, so the diagrams of the save are
dropped. -/
theorem superseded_leaves_no_trace (hg : g.Total) (seed : σ) (events : List Event) (host : Host)
    (wishes : List Wish) :
    let w : Hosted σ := ⟨run g (start, seed) events, host⟩
    (∀ begin ∈ [startLoad, startRefresh], ∀ w₁, Hosted.asking begin w = .ok () w₁ →
      let made := edits g w₁.state wishes
      (made ≠ [] → ∀ text, host.read = .ok text →
        ∃ w', Hosted.fetch g begin wishes w = .ok none w' ∧ w'.host = host ∧
          (run g w.state made).1.Unchanged w'.session ∧ w'.state.2 = (run g w.state made).2) ∧
      (made = [] → Hosted.fetch g begin wishes w = Hosted.fetch g begin [] w)) ∧
    (∀ text w₁, Hosted.asking (startSave g) w = .ok text w₁ →
      (edits g w₁.state wishes = [] → Hosted.save g wishes w = Hosted.save g [] w) ∧
      ((host.write text).1 = .written → ∃ w', Hosted.save g wishes w = .ok text w')) ∧
    (∀ answer w', Hosted.save g wishes w = .ok answer w' →
      ∃ w₁, Hosted.asking (startSave g) w = .ok answer w₁ ∧
        w'.host = { host with text := answer } ∧ w'.session.text = answer ∧
        (edits g w₁.state wishes ≠ [] → w'.session =
          { (run g w₁.state (wishes.map Wish.event)).1 with
            pending := none, text := answer, phase := .dirty })) := by
  intro w
  have hs : w.session.Sound := sound_run hg sound_start events
  refine ⟨?_, ?_, ?_⟩
  · intro begin hb w₁ h
    exact ⟨fun hmade text hread => fetch_of_superseded hg hs hb h hmade hread,
      fetch_of_no_edits hg hs hb h⟩
  · intro text w₁ h
    refine ⟨save_of_no_edits hg hs h, ?_⟩
    intro hw
    rcases save_with_wishes hg hs h wishes with ⟨hn, -⟩ | ⟨-, w', hsave, -⟩
    · exact absurd hw hn
    · exact ⟨w', hsave⟩
  · intro answer w' hsave
    obtain ⟨text, w₁, h, -⟩ := bind_eq_ok.1 hsave
    rcases save_with_wishes hg hs h wishes with
      ⟨-, cause, w'', herror⟩ | ⟨-, w'', hok, hhost, htext, hlate⟩
    · rw [hsave] at herror
      cases herror
    · rw [hsave] at hok
      cases hok
      exact ⟨w₁, h, hhost, htext, hlate⟩

/-- A move supersedes a refresh and a save that it comes upon, among a request and a selection that
are refused. -/
theorem move_supersedes_refresh_and_save :
    let g := Generator.constant ⟨.whole 0, .whole 0⟩
    let text := "CREATE TABLE a.b();"
    let w : Hosted Unit := ⟨run g (start, ()) [.load, .read (.ok text)], .ofText text⟩
    let wishes : List Wish :=
      [.request .load, .move "a.b" ⟨.whole 3, .whole 4⟩, .select "side"]
    (∃ w₁ w', Hosted.asking startRefresh w = .ok () w₁ ∧
      Hosted.refresh g wishes w = .ok none w' ∧
      (run g w.state (edits g w₁.state wishes)).1.Unchanged w'.session) ∧
    ∃ answer w', Hosted.save g wishes w = .ok answer w' ∧ w'.host.text = answer ∧
      w'.session.phase = .dirty := by
  intro g text w wishes
  obtain ⟨hfetch, hsave, hanswer⟩ :=
    superseded_leaves_no_trace (g := g) (Generator.total_constant _) () [.load, .read (.ok text)]
      (.ofText text) wishes
  refine ⟨?_, ?_⟩
  · obtain ⟨⟨⟩, w₁, hstart, hmade⟩ := Hosted.exists_of_completes
      (p := fun w₁ => decide (edits g w₁.state wishes ≠ []))
      (r := Hosted.asking startRefresh w) (by decide +kernel)
    rw [decide_eq_true_eq] at hmade
    obtain ⟨w', hw, -, hsame, -⟩ := (hfetch startRefresh (by simp) w₁ hstart).1 hmade text rfl
    exact ⟨w₁, w', hstart, hw, hsame⟩
  · obtain ⟨answer, w₁, hstart, hmade⟩ := Hosted.exists_of_completes
      (p := fun w₁ => decide (edits g w₁.state wishes ≠ []))
      (r := Hosted.asking (startSave g) w) (by decide +kernel)
    rw [decide_eq_true_eq] at hmade
    obtain ⟨w', hw⟩ := (hsave answer w₁ hstart).2 rfl
    obtain ⟨w₂, hstart', hhost, -, hlate⟩ := hanswer answer w' hw
    rw [hstart] at hstart'
    cases hstart'
    exact ⟨answer, w', hw, by rw [hhost], by rw [hlate hmade]⟩

end SchemaCanvas
