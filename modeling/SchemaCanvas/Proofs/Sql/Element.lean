import SchemaCanvas.Proofs.Sql.Balanced

/-!
# Where an element of a table ends

The parentheses that are open before a token of an element are counted from where the element starts
(`nesting`). An element goes up to the first comma or closing parenthesis outside of them, or to the
end of the tokens, unless a semicolon comes before; what ends it is left (`Statement.Stopped`). Of
the tokens that are passed over those outside of all parentheses are kept, and the parenthesis that
closes each outermost pair (`Statement.keptTokens`). Nothing is asked of the parentheses: they may
be nested in any way and stay open (`Statement.element_stops`).
-/

namespace SchemaCanvas.Sql.Statement

open SchemaCanvas.Sql.Parser

variable {t : Token} {ts : List Token} {depth : Nat}

/-! ## Counting parentheses -/

/-- The number of parentheses that are open behind the tokens, when `depth` are open before them. -/
def nesting (depth : Nat) (before : List Token) : Int :=
  depth + before.countP (·.isMark "(") - before.countP (·.isMark ")")

/-- Whether an element that has passed over the tokens `before` stops at a token: at every
semicolon, and outside of parentheses at a comma or a closing parenthesis. -/
def Stops (depth : Nat) (before : List Token) (t : Token) : Prop :=
  t.isMark ";" = true ∨ (nesting depth before = 0 ∧ t.Ends)

/-- Whether a token behind the tokens `before` stands outside of parentheses, or closes an outermost
pair of them. -/
def isKept (depth : Nat) (before : List Token) (t : Token) : Bool :=
  (nesting depth before = 0 && !t.isMark "(") || (nesting depth before = 1 && t.isMark ")")

/-- The tokens that an element keeps, in order. -/
def keptTokens (depth : Nat) (passed : List Token) : List Token :=
  (passed.zipIdx.filter fun item => isKept depth (passed.take item.2) item.1).map Prod.fst

/-- What an element answers that passes over the tokens `passed` and leaves `rest`. -/
inductive Stopped (depth : Nat) (passed : List Token) :
    List Token → Parser.Answer (List Token) → Prop
  /-- There is nothing left. -/
  | nothing : Stopped depth passed [] (.ok (keptTokens depth passed) [])
  /-- A comma or a parenthesis ends the element. -/
  | ended {t : Token} {ts : List Token} (hopen : nesting depth passed = 0) (ht : t.Ends) :
    Stopped depth passed (t :: ts) (.ok (keptTokens depth passed) (t :: ts))
  /-- The statement ends inside the element. -/
  | failed {t : Token} {ts : List Token} (ht : t.isMark ";" = true) :
    Stopped depth passed (t :: ts) (.error .statementEndsInTable (t :: ts))

@[simp] theorem nesting_nil (depth : Nat) : nesting depth [] = depth := by
  simp [nesting]

/-- A token where an element does not stop opens a parenthesis, closes one that is open, or is
none. -/
theorem depthAfter_cases (h : ¬ Stops depth [] t) :
    (t.isMark "(" = true ∧ t.isMark ")" = false ∧ depthAfter depth t = depth + 1) ∨
      (t.isMark "(" = false ∧ t.isMark ")" = true ∧ depth = depthAfter depth t + 1) ∨
      (t.isMark "(" = false ∧ t.isMark ")" = false ∧ depthAfter depth t = depth) := by
  cases hopen : t.isMark "(" with
  | true =>
    have hclose : t.isMark ")" = false := Token.isMark_of_isMark hopen (by decide)
    exact .inl ⟨rfl, hclose, by simp [depthAfter, hopen]⟩
  | false =>
    cases hclose : t.isMark ")" with
    | false => exact .inr (.inr ⟨rfl, rfl, by simp [depthAfter, hopen, hclose]⟩)
    | true =>
      have hdepth : depth ≠ 0 := fun hd => h (.inr ⟨by rw [nesting_nil, hd]; rfl, .inr hclose⟩)
      refine .inr (.inl ⟨rfl, rfl, ?_⟩)
      simp only [depthAfter, hopen, hclose, if_true, Bool.false_eq_true, if_false]
      omega

/-- The parentheses are counted from the next token on as an element counts them. -/
theorem nesting_cons (h : ¬ Stops depth [] t) (before : List Token) :
    nesting depth (t :: before) = nesting (depthAfter depth t) before := by
  unfold nesting
  rw [List.countP_cons, List.countP_cons]
  rcases depthAfter_cases h with ⟨hopen, hclose, hd⟩ | ⟨hopen, hclose, hd⟩ | ⟨hopen, hclose, hd⟩
  all_goals
    simp only [hopen, hclose, if_true, Bool.false_eq_true, if_false]
    omega

/-- Behind one token more an element stops where it stops behind the others, with the parentheses of
that token counted. -/
theorem stops_cons (h : ¬ Stops depth [] t) (before : List Token) (u : Token) :
    Stops depth (t :: before) u ↔ Stops (depthAfter depth t) before u := by
  rw [Stops, nesting_cons h, Stops]

/-- Behind one token more an element keeps what it keeps behind the others, with the parentheses of
that token counted. -/
theorem isKept_cons (h : ¬ Stops depth [] t) (before : List Token) (u : Token) :
    isKept depth (t :: before) u = isKept (depthAfter depth t) before u := by
  rw [isKept, nesting_cons h, isKept]

/-- A token is kept when no parenthesis is open behind it. -/
theorem isKept_nil (h : ¬ Stops depth [] t) :
    isKept depth [] t = decide (depthAfter depth t = 0) := by
  unfold isKept
  rw [nesting_nil]
  rcases depthAfter_cases h with ⟨hopen, hclose, hd⟩ | ⟨hopen, hclose, hd⟩ | ⟨hopen, hclose, hd⟩
  · simp [hopen, hclose, hd]
  · have hne : depth ≠ 0 := by omega
    have hone : (depth : Int) = 1 ↔ depthAfter depth t = 0 := by omega
    simp [hopen, hclose, hne, hone]
  · simp [hopen, hclose, hd]

/-- A token that is passed over is kept when no parenthesis is open behind it. -/
theorem keptTokens_cons (h : ¬ Stops depth [] t) (passed : List Token) :
    keptTokens depth (t :: passed)
      = if depthAfter depth t = 0 then t :: keptTokens (depthAfter depth t) passed
        else keptTokens (depthAfter depth t) passed := by
  have htail : ((passed.zipIdx 1).filter fun item =>
      isKept depth ((t :: passed).take item.2) item.1).map Prod.fst
        = keptTokens (depthAfter depth t) passed := by
    rw [List.zipIdx_succ, List.filter_map, List.map_map, keptTokens]
    simp only [Function.comp_def, List.take_succ_cons, isKept_cons h]
  rw [keptTokens, List.zipIdx_cons, List.filter_cons, List.take_zero, isKept_nil h, ← htail]
  by_cases hd : depthAfter depth t = 0
  · simp [hd]
  · simp [hd]

/-! ## Reading an element -/

/-- An element is over where it stops at once. -/
theorem stopped_of_stops (h : Stops depth [] t) (ts : List Token) :
    Stopped depth [] (t :: ts) (element depth (t :: ts)) := by
  rw [element_cons]
  by_cases hsemicolon : t.isMark ";" = true
  · rw [if_pos hsemicolon]
    exact .failed hsemicolon
  · obtain ⟨hopen, hends⟩ := h.resolve_left hsemicolon
    have hdepth : depth = 0 := by simpa using hopen
    rw [if_neg hsemicolon, if_pos ⟨hdepth, hends⟩]
    exact .ended hopen hends

/-- A token where an element does not stop is passed over, and kept when no parenthesis is open
behind it. -/
theorem Stopped.cons {passed rest : List Token} (h : ¬ Stops depth [] t)
    (hmore : Stopped (depthAfter depth t) passed rest (element (depthAfter depth t) ts)) :
    Stopped depth (t :: passed) rest (element depth (t :: ts)) := by
  have hsemicolon : ¬ t.isMark ";" = true := fun ht => h (.inl ht)
  have hends : ¬ (depth = 0 ∧ (t.isMark "," = true ∨ t.isMark ")" = true)) := fun ht =>
    h (.inr ⟨by rw [nesting_nil, ht.1]; rfl, ht.2⟩)
  rw [element_cons, if_neg hsemicolon, if_neg hends]
  generalize hanswer : element (depthAfter depth t) ts = answer at hmore
  cases hmore with
  | nothing =>
    rw [bind_of_ok hanswer]
    exact keptTokens_cons h passed ▸ .nothing
  | ended hopen ht =>
    rw [bind_of_ok hanswer]
    exact keptTokens_cons h passed ▸ .ended (by rw [nesting_cons h, hopen]) ht
  | failed ht =>
    rw [bind_of_error hanswer]
    exact .failed ht

/-- **An element is read up to its end and no further.** The tokens are passed over up to the first
one where the element stops, or all of them, and what stops it is left. If that is a semicolon, the
element fails; else it answers with the tokens passed over that stand outside of parentheses or
close an outermost pair. This holds wherever the element starts, also inside open parentheses. -/
theorem element_stops (depth : Nat) (ts : List Token) :
    ∃ passed rest, ts = passed ++ rest ∧
      (∀ before t after, passed = before ++ t :: after → ¬ Stops depth before t) ∧
      Stopped depth passed rest (element depth ts) := by
  induction ts generalizing depth with
  | nil => exact ⟨[], [], rfl, by simp, .nothing⟩
  | cons t ts ih =>
    by_cases hstop : Stops depth [] t
    · exact ⟨[], t :: ts, rfl, by simp, stopped_of_stops hstop ts⟩
    · obtain ⟨passed, rest, hts, hpassed, hanswer⟩ := ih (depthAfter depth t)
      refine ⟨t :: passed, rest, by rw [hts, List.cons_append], ?_, hanswer.cons hstop⟩
      intro before u after hsplit
      cases before with
      | nil =>
        obtain ⟨rfl, -⟩ := List.cons.inj hsplit
        exact hstop
      | cons v before =>
        obtain ⟨rfl, hmore⟩ := List.cons.inj hsplit
        rw [stops_cons hstop]
        exact hpassed before u after hmore

end SchemaCanvas.Sql.Statement
