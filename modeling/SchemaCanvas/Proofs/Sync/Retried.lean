import SchemaCanvas.Proofs.Picture.Stateless
import SchemaCanvas.Proofs.Sync.Hosted

/-!
# Refreshes and saves that fail

A refresh that fails leaves the session as it was, and so does a save that fails before it has a
text to write: both compute all that they need before they take anything over. A save whose write
fails has a session to go back to that is only marked as dirty, so the next save starts from the
same diagrams and places; with a generator that computes from its arguments it writes the same text
(`failure_loses_nothing`).
-/

namespace SchemaCanvas

open Session

variable {σ : Type} {g : Generator σ} {w w' : Hosted σ} {cause : SessionError}

/-! ## Refreshes -/

/-- A text that a refresh does not take over only ends the request. -/
theorem finishRead_eq_error {s s' : Session} {t t' : σ} {number : Nat} {name : String}
    {answer : Except String String} (hp : s.pending = some (.refresh number name))
    (h : finishRead g answer (s, t) = .error cause (s', t')) : s' = { s with pending := none } := by
  have ho := outcome_step g (.read answer) (s, t)
  rw [show Event.step g (.read answer) (s, t) = .error cause (s', t') from h] at ho
  cases ho with
  | refused hrefusal =>
    cases hrefusal with
    | unread hn => exact absurd (.inr ⟨name, hp⟩) (hn number)
    | notLoaded hneeds => cases hneeds
    | busy r he => cases r <;> cases he
  | unread => rfl
  | unshown hload =>
    rw [hp] at hload
    cases hload

/-- A refresh that fails changes nothing but the number of the latest request. -/
theorem refresh_eq_error (h : Hosted.refresh g [] w = .error cause w') :
    w.session.Unchanged w'.session ∧ w'.host = w.host := by
  obtain ⟨⟨s, t⟩, host⟩ := w
  rcases startRefresh_cases (s := s) (t := t) with ⟨name, -, hi, hstart⟩ | ⟨other, hstart⟩
  · rw [Hosted.refresh, Hosted.fetch_of_start hstart] at h
    obtain ⟨hfinish, hhost⟩ := Hosted.asking_eq_error.1 h
    have hsession : w'.session = s.relabelled (s.latest + 1) none := finishRead_eq_error rfl hfinish
    refine ⟨?_, hhost⟩
    rw [hsession]
    show s.relabelled s.latest none = s
    rw [← hi]
    rfl
  · rw [Hosted.refresh, Hosted.fetch_of_error hstart] at h
    cases h
    exact ⟨unchanged_self s, rfl⟩

/-! ## Saves -/

/-- A save that comes without wishes writes its text, or its write fails; then the file is left
alone, and the session is dirty. -/
theorem save_without_wishes {text : String} (h : Hosted.asking (startSave g) w = .ok text w') :
    ((w.host.write text).1 = .written ∧
        ∃ w'', Hosted.save g [] w = .ok text w'' ∧ w''.host = { w.host with text }) ∨
      ((w.host.write text).1 ≠ .written ∧
        ∃ cause w'', Hosted.save g [] w = .error cause w'' ∧ w''.host = w.host ∧
          w''.session = { w.session.counted with phase := .dirty }) := by
  obtain ⟨⟨s, t⟩, host⟩ := w
  obtain ⟨hstart, -⟩ := Hosted.asking_eq_ok.1 h
  obtain ⟨hi, _, _, filled, t', -, -, -, -, hafter⟩ := startSave_eq_ok hstart
  rw [hafter] at hstart
  have hrun : run g (s.saving filled text, t') (List.map Wish.event [])
      = (s.saving filled text, t') := rfl
  rcases Hosted.save_cases hstart hrun rfl with ⟨hw, hsave⟩ | ⟨hw, cause, hsave⟩
  · exact .inl ⟨hw, _, hsave, rfl⟩
  · refine .inr ⟨hw, cause, _, hsave, rfl, ?_⟩
    simp only [Hosted.session, saving, counted, hi]

/-- A save whose write has failed can start again, with the same text when the generator computes
from its arguments. -/
theorem startSave_of_failed {f : Positions → List String → Except LayoutError Positions}
    {s : Session} {t : σ} {text : String} {after : Session × σ}
    (h : startSave (.ofFunction f) (s, t) = .ok text after) (u : σ) :
    ∃ after', startSave (.ofFunction f) ({ s.counted with phase := .dirty }, u)
      = .ok text after' := by
  obtain ⟨hi, name, diagrams, filled, t', hs, hc, hf, hb, -⟩ := startSave_eq_ok h
  have hfill := (DiagramSet.stateless_fill f diagrams).eq_ok hf u
  exact ⟨_, startSave_of_ready (s := { s.counted with phase := .dirty }) ⟨nofun, hs.2⟩ hi hc hfill
    hb⟩

/-- **A failed refresh or save loses nothing.** Whatever the generator and the host do: a refresh
that fails changes nothing but the number of the latest request; neither does a save that fails
before its write, and it leaves the file alone; a save whose write fails leaves the file alone and a
session that is dirty, and else unchanged. With a generator that computes from its arguments, a save
after that writes the text that the failed one did not write, as soon as the host makes the
write. -/
theorem failure_loses_nothing (g : Generator σ) (w : Hosted σ) :
    (∀ cause w', Hosted.refresh g [] w = .error cause w' →
      w.session.Unchanged w'.session ∧ w'.host = w.host) ∧
    (∀ cause w', Hosted.asking (startSave g) w = .error cause w' →
      Hosted.save g [] w = .error cause w' ∧ w.session.Unchanged w'.session ∧ w'.host = w.host) ∧
    (∀ text w₁, Hosted.asking (startSave g) w = .ok text w₁ →
      ∀ cause w', Hosted.save g [] w = .error cause w' →
        (w.host.write text).1 ≠ .written ∧ w'.host = w.host ∧
        ({ w.session with phase := .dirty } : Session).Unchanged w'.session ∧
        ∀ f, g = .ofFunction f → ∀ host : Host,
          ((host.write text).1 = .written →
            ∃ w'', Hosted.save g [] ⟨w'.state, host⟩ = .ok text w'') ∧
          ∀ answer w'', Hosted.save g [] ⟨w'.state, host⟩ = .ok answer w'' →
            answer = text ∧ w''.host = { host with text }) := by
  refine ⟨fun cause w' h => refresh_eq_error h, ?_, ?_⟩
  · intro cause w' h
    obtain ⟨hstart, hhost⟩ := Hosted.asking_eq_error.1 h
    exact ⟨bind_of_error h, startSave_eq_error hstart, hhost⟩
  · intro text w₁ h cause w' hsave
    rcases save_without_wishes h with ⟨-, w'', hok, -⟩ | ⟨hw, _, _, herror, hhost, hsession⟩
    · rw [hok] at hsave
      cases hsave
    rw [herror] at hsave
    cases hsave
    refine ⟨hw, hhost, ?_, ?_⟩
    · rw [hsession]
      rfl
    · rintro f rfl host
      have hstate : w'.state = ({ w.session.counted with phase := .dirty }, w'.state.2) :=
        Prod.ext hsession rfl
      obtain ⟨after, hafter⟩ := startSave_of_failed (Hosted.asking_eq_ok.1 h).1 w'.state.2
      have hagain : startSave (.ofFunction f) w'.state = .ok text after := by
        rw [hstate]
        exact hafter
      have hstart : Hosted.asking (startSave (.ofFunction f)) ⟨w'.state, host⟩
          = .ok text ⟨after, host⟩ := Hosted.asking_of_ok hagain
      rcases save_without_wishes hstart with ⟨-, w₃, hok, hwritten⟩ | ⟨hn, _, _, herror, -, -⟩
      · refine ⟨fun _ => ⟨w₃, hok⟩, ?_⟩
        intro answer w'' hanswer
        rw [hok] at hanswer
        cases hanswer
        exact ⟨rfl, hwritten⟩
      · refine ⟨fun hwrite => absurd hwrite hn, ?_⟩
        intro answer w'' hanswer
        rw [herror] at hanswer
        cases hanswer

/-- A refresh that cannot read its file, and a save that is refused; the save is made up for when
the host writes again. -/
theorem refused_save_is_made_up_for :
    let g := Generator.constant ⟨.whole 0, .whole 0⟩
    let text := "CREATE TABLE a.b();"
    let w : Hosted Unit :=
      ⟨run g (start, ()) [.load, .read (.ok text)], ⟨text, some "gone", none, true⟩⟩
    (∃ cause w', Hosted.refresh g [] w = .error cause w' ∧ w.session.Unchanged w'.session) ∧
    ∃ saved cause w' w'', Hosted.save g [] w = .error cause w' ∧ w'.host = w.host ∧
      ({ w.session with phase := .dirty } : Session).Unchanged w'.session ∧
      Hosted.save g [] ⟨w'.state, .ofText text⟩ = .ok saved w'' ∧ w''.host = .ofText saved := by
  intro g text w
  obtain ⟨hrefresh, -, hsave⟩ := failure_loses_nothing g w
  refine ⟨?_, ?_⟩
  · obtain ⟨cause, w', h⟩ :=
      Hosted.exists_of_fails (r := Hosted.refresh g [] w) (by decide +kernel)
    exact ⟨cause, w', h, (hrefresh cause w' h).1⟩
  · obtain ⟨saved, w₁, hstart, -⟩ := Hosted.exists_of_completes (p := fun _ => true)
      (r := Hosted.asking (startSave g) w) (by decide +kernel)
    obtain ⟨cause, w', h⟩ := Hosted.exists_of_fails (r := Hosted.save g [] w) (by decide +kernel)
    obtain ⟨-, hhost, hsame, hagain⟩ := hsave saved w₁ hstart cause w' h
    have hg : g = .ofFunction fun _ names =>
        .ok (Registry.ofList (names.map fun name => (name, ⟨.whole 0, .whole 0⟩))) := rfl
    obtain ⟨hwrites, hanswer⟩ := hagain _ hg (.ofText text)
    obtain ⟨w'', hok⟩ := hwrites rfl
    exact ⟨saved, cause, w', w'', h, hhost, hsame, hok, (hanswer saved w'' hok).2⟩

end SchemaCanvas
