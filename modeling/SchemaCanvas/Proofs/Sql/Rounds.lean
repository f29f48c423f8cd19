import SchemaCanvas.Proofs.Sql.Steps

/-!
# The reading of a script goes on behind a semicolon

Whatever becomes of a statement, the round that reads it ends at the end of the script or right
behind a semicolon: a statement that is understood takes its own semicolon (`finishes_statement`),
and one that is not is passed over up to the next one (`boundary_round`). So the rounds of a script
(`turns`) lie one behind the other and cover it, each takes at least one token, and each gives what
its statement declares or one warning on the line of its first token (`turns_cover`).
-/

namespace SchemaCanvas.Sql

open SchemaCanvas.Sql.Parser SchemaCanvas.Sql.Statement

variable {α β : Type} {ts us rest : List Token}

/-! ## Boundaries of statements -/

/-- The tokens from which the reading may go on: none, or those right behind a semicolon. -/
def Boundary (ts rest : List Token) : Prop :=
  rest = [] ∨ ∃ passed semicolon, semicolon.isMark ";" = true ∧ ts = passed ++ semicolon :: rest

/-- A boundary of a tail of the tokens is one of the tokens. -/
theorem Boundary.of_suffix (h : Boundary us rest) (hs : us <:+ ts) : Boundary ts rest := by
  rcases h with rfl | ⟨passed, semicolon, hsemicolon, rfl⟩
  · exact .inl rfl
  · obtain ⟨before, rfl⟩ := hs
    exact .inr ⟨before ++ passed, semicolon, hsemicolon, (List.append_assoc ..).symm⟩

/-- What is left at a boundary is a tail of the tokens. -/
theorem Boundary.suffix (h : Boundary ts rest) : rest <:+ ts := by
  rcases h with rfl | ⟨passed, semicolon, -, rfl⟩
  · exact List.nil_suffix
  · exact (List.suffix_cons semicolon rest).trans (List.suffix_append passed _)

/-- A statement is passed over up to a boundary. -/
theorem boundary_skipStatement (ts : List Token) : Boundary ts (skipStatement ts) := by
  induction ts with
  | nil => exact .inl rfl
  | cons t ts ih =>
    rw [skipStatement]
    split
    · next h => exact .inr ⟨[], t, h, rfl⟩
    · exact ih.of_suffix (List.suffix_cons t ts)

/-! ## Statements that are understood -/

/-- A parser that leaves a boundary when it answers with a value. -/
def Finishes (p : Parser α) : Prop :=
  ∀ ts a rest, p ts = .ok a rest → Boundary ts rest

/-- The last parser of a sequence decides where the sequence ends. -/
theorem Finishes.after {p : Parser α} {f : α → Parser β} (hp : Shortens p)
    (hf : ∀ a, Finishes (f a)) : Finishes (p >>= f) := by
  intro ts b rest h
  obtain ⟨a, us, ha, hb⟩ := bind_eq_ok.1 h
  have hs := hp ts
  rw [ha] at hs
  exact (hf a us b rest hb).of_suffix hs

/-- A parser finishes whatever is made of its value. -/
theorem Finishes.bind_pure {p : Parser α} (hp : Finishes p) (f : α → β) :
    Finishes (p >>= fun a => Pure.pure (f a)) := by
  intro ts b rest h
  obtain ⟨a, us, ha, hb⟩ := bind_eq_ok.1 h
  cases hb
  exact hp ts a rest ha

/-- Passing over the rest of a statement finishes. -/
theorem finishes_skipStatement : Finishes (modify skipStatement : Parser PUnit) := by
  intro ts a rest h
  cases h
  exact boundary_skipStatement ts

/-- The declaration of a table finishes, since the rest of its statement is passed over. -/
theorem finishes_tableDeclaration (line : Nat) : Finishes (tableDeclaration line) :=
  .after shortens_ifNotExists fun _ => .after shortens_qualifiedName fun _ =>
    .after (shortens_require _ _) fun _ => .after (shortens_tableBody _) fun _ =>
      finishes_skipStatement.bind_pure _

/-- An action ends at a comma or at a semicolon. -/
theorem isMark_of_skipAction {t : Token} {depth : Nat} (h : skipAction depth ts = t :: rest) :
    t.isMark ";" = true ∨ t.isMark "," = true := by
  induction ts generalizing depth with
  | nil => cases h
  | cons u ts ih =>
    rw [skipAction] at h
    split at h
    · next hu =>
      obtain rfl := (List.cons.inj h).1
      exact hu.imp_right And.left
    · exact ih h

/-- The actions on a table end at the end of the tokens or at a semicolon, which is left. -/
theorem tableActions_eq_ok {table : String} {line : Nat} {ss : List Statement}
    (h : tableActions table line ts = .ok ss rest) :
    rest = [] ∨ ∃ semicolon more, rest = semicolon :: more ∧ semicolon.isMark ";" = true := by
  fun_induction tableActions table line ts generalizing ss with
  | case1 ts cause rest' h' => cases h
  | case2 ts statement after h' hr =>
    cases h
    exact .inl rfl
  | case3 ts statement after h' t rest' hr _ hcomma statements rest'' h'' ih =>
    cases h
    exact ih h''
  | case4 ts statement after h' t rest' hr _ hcomma cause rest'' h'' => cases h
  | case5 ts statement after h' t rest' hr _ hcomma =>
    cases h
    exact .inr ⟨t, rest', rfl, (isMark_of_skipAction hr).resolve_right hcomma⟩

/-- The actions on a table and a semicolon finish, since they end at a semicolon or with the
tokens. -/
theorem finishes_actions (table : String) (line : Nat) :
    Finishes (tableActions table line >>= fun statements =>
      acceptMark ";" >>= fun _ => Pure.pure statements) := by
  intro ts ss rest h
  obtain ⟨statements, us, hactions, h⟩ := bind_eq_ok.1 h
  obtain ⟨present, vs, hmark, h⟩ := bind_eq_ok.1 h
  cases h
  have hs := (shortens_tableActions table line).of_ok hactions
  rcases tableActions_eq_ok hactions with rfl | ⟨semicolon, more, rfl, hsemicolon⟩
  · cases hmark
    exact .inl rfl
  · rw [acceptMark, accept, if_pos hsemicolon] at hmark
    cases hmark
    exact Boundary.of_suffix (.inr ⟨[], semicolon, hsemicolon, rfl⟩) hs

/-- A change of a table finishes. -/
theorem finishes_tableChange (line : Nat) : Finishes (tableChange line) :=
  .after shortens_ifExists fun _ => .after (shortens_accept _) fun _ =>
    .after shortens_qualifiedName fun _ => finishes_actions _ line

/-- A statement that is understood, or that is about other things, is read with its semicolon. -/
theorem finishes_statement : Finishes statement := by
  intro ts ss rest h
  have skips : ∀ {ts}, (.ok [] (skipStatement ts) : Parser.Answer (List Statement)) = .ok ss rest →
      Boundary ts rest := by
    rintro ts ⟨⟩
    exact boundary_skipStatement ts
  match ts with
  | [] => exact skips h
  | [t] => exact skips h
  | t :: u :: ts =>
    have hs : ts <:+ t :: u :: ts := (List.suffix_cons u ts).trans (List.suffix_cons t _)
    rw [statement_cons] at h
    split at h
    · split at h
      · exact ((finishes_tableDeclaration _).bind_pure _ _ _ _ h).of_suffix hs
      split at h
      · exact (finishes_tableChange _ _ _ _ h).of_suffix hs
      · exact skips h
    · exact skips h

/-! ## Rounds -/

/-- A statement leaves a tail of the tokens. -/
theorem shortens_statement : Shortens statement := by
  intro ts
  match ts with
  | [] => exact skipStatement_suffix []
  | [t] => exact skipStatement_suffix [t]
  | t :: u :: ts =>
    have hs : ts <:+ t :: u :: ts := (List.suffix_cons u ts).trans (List.suffix_cons t _)
    rw [statement_cons]
    split
    · split
      · exact ((shortens_tableDeclaration _).bind (fun _ => .pure _) ts).trans hs
      split
      · exact (shortens_tableChange _ ts).trans hs
      · exact skipStatement_suffix (t :: u :: ts)
    · exact skipStatement_suffix (t :: u :: ts)

/-- A round ends at a boundary, also where its statement cannot be understood. -/
theorem boundary_round (t : Token) (ts : List Token) : Boundary (t :: ts) (round t ts).2 := by
  unfold Statement.round
  cases h : statement (t :: ts) with
  | ok ss rest => exact finishes_statement _ _ _ h
  | error cause rest =>
    exact (boundary_skipStatement rest).of_suffix (shortens_statement.of_error h)

/-- One round of reading: the tokens that it passes over, and what it gives. -/
structure Turn where
  passed : List Token
  statements : List Statement
  warnings : List Warning

namespace Turn

/-- The round that passes over tokens and gives declarations or a warning. -/
def ofRound (passed : List Token) : Round → Turn
  | .inl statements => ⟨passed, statements, []⟩
  | .inr warning => ⟨passed, [], [warning]⟩

@[simp] theorem passed_ofRound (passed : List Token) (r : Round) :
    (ofRound passed r).passed = passed := by
  cases r <;> rfl

/-- What a round does that starts with the token `t`, when `rest` is left after it. -/
inductive Reads (t : Token) (rest : List Token) : Turn → Prop
  /-- The statement is understood, or is about other things. -/
  | understood {passed : List Token} {ss : List Statement}
    (h : statement (t :: passed ++ rest) = .ok ss rest) : Reads t rest ⟨t :: passed, ss, []⟩
  /-- The statement is not understood, and what it leaves is passed over. -/
  | skipped {passed left : List Token} {cause : SyntaxError}
    (h : statement (t :: passed ++ rest) = .error cause left) (hleft : skipStatement left = rest) :
    Reads t rest ⟨t :: passed, [], [⟨.syntactic, cause.message, some t.place.line⟩]⟩

/-- The tokens of a round end with a semicolon. -/
def EndsStatement (r : Turn) : Prop :=
  ∃ semicolon, r.passed.getLast? = some semicolon ∧ semicolon.isMark ";" = true

/-- What a round gives and the tokens that it passes over are what a round does. -/
theorem reads_round {t : Token} {ts passed : List Token}
    (h : t :: passed ++ (round t ts).2 = t :: ts) :
    Reads t (round t ts).2 (.ofRound (t :: passed) (round t ts).1) := by
  unfold Statement.round at h ⊢
  cases hs : statement (t :: ts) with
  | ok ss rest =>
    rw [hs] at h
    exact .understood (h.symm ▸ hs)
  | error cause left =>
    rw [hs] at h
    exact .skipped (h.symm ▸ hs) rfl

end Turn

/-- The rounds in which tokens are read. -/
def turns : List Token → List Turn
  | [] => []
  | t :: ts =>
    .ofRound ((t :: ts).take ((t :: ts).length - (round t ts).2.length)) (round t ts).1 ::
      turns (round t ts).2
termination_by ts => ts.length
decreasing_by exact length_round_lt t ts

/-- The first round passes over its first token and all others up to the one where the next round
starts. -/
theorem exists_turns_cons (t : Token) (ts : List Token) :
    ∃ passed, t :: passed ++ (round t ts).2 = t :: ts ∧
      turns (t :: ts) = .ofRound (t :: passed) (round t ts).1 :: turns (round t ts).2 := by
  obtain ⟨passed, hpassed⟩ := (boundary_round t ts).suffix
  have hlength := congrArg List.length hpassed
  rw [List.length_append] at hlength
  cases passed with
  | nil =>
    have hlt := length_round_lt t ts
    simp only [List.length_nil] at hlength
    omega
  | cons u passed =>
    obtain rfl : u = t := (List.cons.inj hpassed).1
    refine ⟨passed, hpassed, ?_⟩
    have htake : (u :: ts).take ((u :: ts).length - (round u ts).2.length) = u :: passed := by
      rw [← hlength, Nat.add_sub_cancel, ← hpassed]
      exact List.take_left
    rw [turns, htake]

/-- The rounds pass over all tokens, in order and each once. -/
theorem flatMap_passed_turns (ts : List Token) : (turns ts).flatMap Turn.passed = ts := by
  induction ts using turns.induct with
  | case1 => rw [turns, List.flatMap_nil]
  | case2 t ts ih =>
    obtain ⟨passed, hpassed, hturns⟩ := exists_turns_cons t ts
    rw [hturns, List.flatMap_cons, ih, Turn.passed_ofRound, hpassed]

/-- The reading gives what its rounds give. -/
theorem collect_eq_turns (ts : List Token) :
    collect ts = ((turns ts).flatMap Turn.statements, (turns ts).flatMap Turn.warnings) := by
  induction ts using turns.induct with
  | case1 => rw [collect, turns, List.flatMap_nil, List.flatMap_nil]
  | case2 t ts ih =>
    obtain ⟨passed, -, hturns⟩ := exists_turns_cons t ts
    rw [collect, hturns, List.flatMap_cons, List.flatMap_cons, ih]
    cases (round t ts).1 <;> rfl

/-- A round ends with a semicolon when tokens are left after it. -/
theorem endsStatement_of_boundary {passed : List Token} (h : Boundary (passed ++ rest) rest)
    (hrest : rest ≠ []) (r : Round) : (Turn.ofRound passed r).EndsStatement := by
  obtain ⟨before, semicolon, hsemicolon, happend⟩ := h.resolve_left hrest
  rw [List.append_cons] at happend
  refine ⟨semicolon, ?_, hsemicolon⟩
  rw [Turn.passed_ofRound, List.append_cancel_right happend, List.getLast?_concat]

/-- Each round reads from its first token on, and is the last one or ends with a semicolon. -/
theorem reads_of_turns_eq {ts : List Token} {before : List Turn} {turn : Turn} {after : List Turn}
    (h : turns ts = before ++ turn :: after) :
    (∃ t, turn.Reads t (after.flatMap Turn.passed)) ∧ (after = [] ∨ turn.EndsStatement) := by
  induction ts using turns.induct generalizing before with
  | case1 =>
    rw [turns] at h
    exact absurd h.symm (by simp)
  | case2 t ts ih =>
    obtain ⟨passed, hpassed, hturns⟩ := exists_turns_cons t ts
    rw [hturns] at h
    cases before with
    | cons first before => exact ih (List.cons.inj h).2
    | nil =>
      obtain ⟨rfl, rfl⟩ := List.cons.inj h
      rw [flatMap_passed_turns]
      refine ⟨⟨t, Turn.reads_round hpassed⟩, ?_⟩
      by_cases hrest : (round t ts).2 = []
      · rw [hrest, turns]
        exact .inl rfl
      · exact .inr (endsStatement_of_boundary (hpassed ▸ boundary_round t ts) hrest _)

/-- **The reading always goes on behind a semicolon.** The rounds of a script cover it from its
first token to its last and give together what the reading gives. Each takes at least one token, and
is the last one or ends with a semicolon. It gives the declarations of its statement, or else a
warning on the line of its first token. -/
theorem turns_cover (ts : List Token) :
    (turns ts).flatMap Turn.passed = ts ∧
      collect ts = ((turns ts).flatMap Turn.statements, (turns ts).flatMap Turn.warnings) ∧
      ∀ before turn after, turns ts = before ++ turn :: after →
        (∃ t, turn.Reads t (after.flatMap Turn.passed)) ∧ (after = [] ∨ turn.EndsStatement) :=
  ⟨flatMap_passed_turns ts, collect_eq_turns ts, fun _ _ _ => reads_of_turns_eq⟩

end SchemaCanvas.Sql
