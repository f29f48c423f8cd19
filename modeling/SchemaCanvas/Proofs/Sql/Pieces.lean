import SchemaCanvas.Proofs.Sql.Comment

/-!
# Where the pieces of a script stand

The pieces of a script cover it without gaps and without overlaps: every character is in one of them
(`Lexeme.exists_covers`), and of two pieces that are not the same one ends before the other starts
(`Lexeme.StandsAt.apart`). A piece without a token is a blank, a comment or a stray character, and
`Lexeme.Silent` says what each of them looks like.
-/

namespace SchemaCanvas.Sql.Lexeme

/-- Whether a piece stands for a token. -/
def IsToken (l : Lexeme) : Prop :=
  l.meaning?.isSome = true

/-- Whether a piece stands in a script, after a number of characters. -/
def StandsAt (cs : List Char) (m : Lexeme) (offset : Nat) : Prop :=
  ∃ ls ms, scan cs = ls ++ m :: ms ∧ (ls.flatMap text).length = offset

/-- The offset after the last character of a piece. -/
def stop (m : Lexeme) (offset : Nat) : Nat :=
  offset + m.text.length

/-! ## Covering a script -/

/-- Every character of a text that consists of pieces is in one of them. -/
theorem exists_piece {ls : List Lexeme} {n : Nat} (h : n < (ls.flatMap text).length) :
    ∃ us m vs, ls = us ++ m :: vs ∧ (us.flatMap text).length ≤ n ∧
      n < m.stop (us.flatMap text).length := by
  induction ls generalizing n with
  | nil => cases h
  | cons l ls ih =>
    by_cases hn : n < l.text.length
    · exact ⟨[], l, ls, rfl, Nat.zero_le _, by simpa [stop] using hn⟩
    · rw [List.flatMap_cons, List.length_append] at h
      obtain ⟨us, m, vs, rfl, hstart, hstop⟩ := ih (n := n - l.text.length) (by omega)
      refine ⟨l :: us, m, vs, rfl, ?_, ?_⟩
      · rw [List.flatMap_cons, List.length_append]
        omega
      · rw [stop] at hstop ⊢
        rw [List.flatMap_cons, List.length_append]
        omega

/-- Every character of a script is in one of its pieces. -/
theorem exists_covers {cs : List Char} {n : Nat} (h : n < cs.length) :
    ∃ m offset, StandsAt cs m offset ∧ offset ≤ n ∧ n < m.stop offset := by
  rw [← flatMap_text_scan cs] at h
  obtain ⟨us, m, vs, hscan, hstart, hstop⟩ := exists_piece h
  exact ⟨m, _, ⟨us, vs, hscan, rfl⟩, hstart, hstop⟩

/-- What follows some pieces of a script is scanned as if the script started there. -/
theorem exists_rest {cs : List Char} {ls ms : List Lexeme} (h : scan cs = ls ++ ms) :
    ∃ rest, cs = ls.flatMap text ++ rest ∧ scan rest = ms := by
  induction ls generalizing cs with
  | nil => exact ⟨cs, rfl, h⟩
  | cons l ls ih =>
    cases cs with
    | nil => rw [scan] at h; cases h
    | cons c cs =>
      rw [scan_cons, List.cons_append] at h
      obtain ⟨rfl, htail⟩ := List.cons.inj h
      obtain ⟨rest, hrest, hscan⟩ := ih htail
      refine ⟨rest, ?_, hscan⟩
      rw [← text_next_append c cs, hrest, List.flatMap_cons, List.append_assoc]

namespace StandsAt

variable {cs : List Char} {m m' : Lexeme} {offset offset' : Nat}

/-- Of two pieces one stands before the other, unless they are the same. -/
theorem apart (h : StandsAt cs m offset) (h' : StandsAt cs m' offset') :
    m'.stop offset' ≤ offset ∨ (m' = m ∧ offset' = offset) ∨ m.stop offset ≤ offset' := by
  obtain ⟨ls, ms, hscan, rfl⟩ := h
  obtain ⟨ls', ms', hscan', rfl⟩ := h'
  rw [hscan] at hscan'
  rcases List.append_eq_append_iff.1 hscan' with ⟨us, rfl, hu⟩ | ⟨us, rfl, hu⟩
  · cases us with
    | nil =>
      obtain ⟨rfl, -⟩ := List.cons.inj hu
      exact .inr (.inl ⟨rfl, by simp⟩)
    | cons u us =>
      obtain ⟨rfl, -⟩ := List.cons.inj hu
      refine .inr (.inr ?_)
      simp [stop]
  · cases us with
    | nil =>
      obtain ⟨rfl, -⟩ := List.cons.inj hu
      exact .inr (.inl ⟨rfl, by simp⟩)
    | cons u us =>
      obtain ⟨rfl, -⟩ := List.cons.inj hu
      refine .inl ?_
      simp [stop]

/-- A piece is the first one of the text that it starts, and the next piece starts where it ends. -/
theorem exists_next (h : StandsAt cs m offset) :
    ∃ u c w, cs = u ++ c :: w ∧ u.length = offset ∧ m = (next c w).1 ∧
      ∀ d v, (next c w).2 = d :: v → StandsAt cs (next d v).1 (m.stop offset) := by
  obtain ⟨ls, ms, hscan, rfl⟩ := h
  obtain ⟨rest, rfl, hrest⟩ := exists_rest hscan
  cases rest with
  | nil => rw [scan] at hrest; cases hrest
  | cons c w =>
    rw [scan_cons] at hrest
    obtain ⟨rfl, rfl⟩ := List.cons.inj hrest
    refine ⟨_, c, w, rfl, rfl, rfl, fun d v hd => ?_⟩
    rw [hd, scan_cons, List.append_cons ls] at hscan
    exact ⟨_, _, hscan, by simp [stop]⟩

/-- A piece stands between two parts of the script, of which the first is as long as the offset. -/
theorem exists_around (h : StandsAt cs m offset) :
    ∃ u v, cs = u ++ (m.text ++ v) ∧ u.length = offset := by
  obtain ⟨u, c, w, hcs, hu, rfl, -⟩ := h.exists_next
  exact ⟨u, (next c w).2, by rw [text_next_append, hcs], hu⟩

/-- Every piece has at least one character. -/
theorem lt_stop (h : StandsAt cs m offset) : offset < m.stop offset := by
  obtain ⟨u, c, w, -, -, rfl, -⟩ := h.exists_next
  have := List.length_pos_iff.2 (text_next_ne_nil c w)
  rw [stop]
  omega

end StandsAt

/-! ## Pieces without a token -/

/-- What stands at the front of a text and has no token. -/
inductive Silence (c : Char) (w : List Char) : Lexeme × List Char → Prop
  | blank : Text.isBlank c = true → Silence c w (run .blank Text.isBlank c w)
  | lineComment : Silence c w (run .lineComment (· ≠ '\n') c w)
  | blockComment {inside : List Char} : c = '/' → w = '*' :: inside →
      Silence c w (upTo .blockComment ['/', '*'] ['*', '/'] inside)
  /-- A stray character does not open a comment. -/
  | stray : ¬ (c = '/' ∧ w.head? = some '*') → Silence c w (⟨.stray, [c]⟩, w)

/-- A quoted form stands for a token. -/
theorem isToken_quoted {form : Form} (hf : form = .quotedName ∨ form = .quotedString) (q : Char)
    (cs : List Char) : (quoted form q cs).1.IsToken := by
  unfold quoted
  rcases hf with rfl | rfl <;> split <;> rfl

/-- A piece that goes up to a mark has the form that is asked for. -/
theorem form_upTo (form : Form) (opening mark cs : List Char) :
    (upTo form opening mark cs).1.form = form := by
  unfold upTo
  split <;> rfl

/-- A string in dollar signs stands for a token. -/
theorem isToken_upTo (opening mark cs : List Char) :
    (upTo .dollarString opening mark cs).1.IsToken := by
  simp [IsToken, meaning?, form_upTo]

/-- A dollar sign that opens no string is stray. -/
theorem dollar_of_not_isToken {cs : List Char} (h : ¬ (dollar cs).1.IsToken) :
    dollar cs = (⟨.stray, ['$']⟩, cs) := by
  unfold dollar at h ⊢
  split at h
  · exact absurd (isToken_upTo ..) h
  · rfl

/-- A symbol that is no operator is stray. -/
theorem symbol_of_not_isToken {c : Char} {cs : List Char} (h : ¬ (symbol c cs).1.IsToken) :
    symbol c cs = (⟨.stray, [c]⟩, cs) := by
  unfold symbol at h ⊢
  cases cs with
  | nil =>
    by_cases hs : c ∈ singleOperators
    · exact absurd (by simp [hs, IsToken, meaning?]) h
    · simp [hs]
  | cons d cs =>
    by_cases hp : (c, d) ∈ pairedOperators
    · exact absurd (by simp [hp, IsToken, meaning?]) h
    · by_cases hs : c ∈ singleOperators
      · exact absurd (by simp [hp, hs, IsToken, meaning?]) h
      · simp [hp, hs]

/-- A piece without a token is a blank, a comment or a stray character. -/
theorem silence_next {c : Char} {w : List Char} (h : ¬ (next c w).1.IsToken) :
    Silence c w (next c w) := by
  revert h
  unfold next
  split
  · next hb => exact fun _ => .blank hb
  split
  · exact fun _ => .lineComment
  split
  · next hc =>
    obtain ⟨inside, rfl⟩ := List.head?_eq_some_iff.1 hc.2
    exact fun _ => .blockComment hc.1 rfl
  next hc =>
  split
  · exact fun h => absurd (isToken_quoted (.inl rfl) ..) h
  split
  · exact fun h => absurd (isToken_quoted (.inr rfl) ..) h
  split
  · next hd =>
    intro h
    rw [dollar_of_not_isToken h, ← hd]
    exact .stray hc
  split
  · exact fun h => absurd rfl h
  split
  · exact fun h => absurd rfl h
  split
  · exact fun h => absurd rfl h
  · intro h
    rw [symbol_of_not_isToken h]
    exact .stray hc

end SchemaCanvas.Sql.Lexeme
