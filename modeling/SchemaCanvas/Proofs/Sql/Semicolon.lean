import SchemaCanvas.Proofs.Sql.Halting

/-!
# A statement ends at its semicolon

Tokens that end in a semicolon are read on their own, whatever follows them and whatever is wrong
with them, but for one case: the arguments of a type run past a semicolon when their parenthesis is
never closed (`arguments_halt_or_runOn`). The table of such a type then runs on too, through all
statements that close no parenthesis of it, and fails at the end of the text. So the reading of the
tokens does not depend on what follows just when no table of theirs runs to the end of the text
(`collect_append_iff`); otherwise statements that follow are lost (`collect_append_or`).
-/

namespace SchemaCanvas.Sql

open SchemaCanvas.Sql.Parser SchemaCanvas.Sql.Statement

variable {α β : Type} {P : List Token → Prop} {ts : List Token}

/-! ## Parentheses that stay open -/

/-- Tokens that close no parenthesis which is open before them. -/
def ClosesNone (more : List Token) : Prop :=
  ∀ depth, 0 < depth → (arguments depth more).2 = []

/-- Values that leave nothing, whatever follows that closes no parenthesis. -/
def RunsOn (x : List Token → Parser.Answer α) : Prop :=
  ∀ more, ClosesNone more → ∃ a, x more = .ok a []

/-- A failure in a table at the end of the text, whatever follows that closes no parenthesis. -/
def Unfinished (x : List Token → Parser.Answer α) : Prop :=
  ∃ table, ∀ more, ClosesNone more → x more = .error (.textEndsInTable table) []

/-- A parser that runs on is followed by one that answers at the end, and the sequence runs on. -/
theorem RunsOn.bind {p : Parser α} {f : α → Parser β} (h : RunsOn (answersOn p ts))
    (hf : ∀ a, ∃ b, f a [] = .ok b []) : RunsOn (answersOn (p >>= f) ts) := by
  intro more hmore
  obtain ⟨a, ha⟩ := h more hmore
  obtain ⟨b, hb⟩ := hf a
  exact ⟨b, (bind_of_ok ha).trans hb⟩

/-- A parser that runs on leaves the table unfinished when the next one finds the text at its
end. -/
theorem RunsOn.unfinished {p : Parser α} {f : α → Parser β} (h : RunsOn (answersOn p ts))
    (table : String) (hf : ∀ a, f a [] = .error (.textEndsInTable table) []) :
    Unfinished (answersOn (p >>= f) ts) := by
  refine ⟨table, fun more hmore => ?_⟩
  obtain ⟨a, ha⟩ := h more hmore
  exact (bind_of_ok ha).trans (hf a)

/-- An unfinished table fails the sequence that it is a part of. -/
theorem Unfinished.bind {p : Parser α} (h : Unfinished (answersOn p ts)) (f : α → Parser β) :
    Unfinished (answersOn (p >>= f) ts) := by
  obtain ⟨table, h⟩ := h
  exact ⟨table, fun more hmore => bind_of_error (h more hmore)⟩

/-! ## Types and columns -/

/-- The arguments of a type end at the parenthesis that closes them, or they run on. -/
theorem arguments_halt_or_runOn (h : Terminated ts) {depth : Nat} (hd : 0 < depth) :
    (∃ args rest, Terminated rest ∧ ∀ more, arguments depth (ts ++ more) = (args, rest ++ more)) ∨
      ∀ more, ClosesNone more → (arguments depth (ts ++ more)).2 = [] := by
  induction h generalizing depth with
  | @last t h =>
    refine .inr fun more hmore => ?_
    have hopen : t.isMark "(" = false := Token.isMark_of_isMark h (by decide)
    have hclose : t.isMark ")" = false := Token.isMark_of_isMark h (by decide)
    have hdepth : depthAfter depth t = depth := by simp [depthAfter, hopen, hclose]
    rw [List.singleton_append, arguments, if_neg (by simp [hclose]), hdepth]
    exact hmore depth hd
  | @cons t ts h ih =>
    by_cases hend : t.isMark ")" = true ∧ depth ≤ 1
    · refine .inl ⟨[typeText t], ts, h, fun more => ?_⟩
      rw [List.cons_append, arguments, if_pos hend]
    · have hafter : 0 < depthAfter depth t := by
        unfold depthAfter
        split
        · exact Nat.succ_pos depth
        split
        · next hclose => exact Nat.sub_pos_of_lt (Nat.lt_of_not_le fun hle => hend ⟨hclose, hle⟩)
        · exact hd
      rcases ih hafter with ⟨args, rest, hrest, hargs⟩ | hruns
      · refine .inl ⟨typeText t :: args, rest, hrest, fun more => ?_⟩
        rw [List.cons_append, arguments, if_neg hend, hargs]
      · refine .inr fun more hmore => ?_
        rw [List.cons_append, arguments, if_neg hend]
        exact hruns more hmore

/-- A sequence goes on to halt or to run on. -/
theorem bind_halts_or_runsOn {p : Parser α} {f : α → Parser β}
    (hp : Halts Terminated (answersOn p ts) ∨ RunsOn (answersOn p ts)) (hf : ∀ a, Halting (f a))
    (hend : ∀ a, ∃ b, f a [] = .ok b []) :
    Halts Terminated (answersOn (p >>= f) ts) ∨ RunsOn (answersOn (p >>= f) ts) :=
  hp.imp (fun h => h.bind fun a rest _ hrest => hf a rest hrest) fun h => h.bind hend

/-- What may follow the name of a type halts, or its arguments run on to the end of the text. -/
theorem typeSuffix_halts_or_runsOn : ∀ {ts : List Token}, Terminated ts →
    Halts Terminated (answersOn typeSuffix ts) ∨ RunsOn (answersOn typeSuffix ts)
  | [], h => nomatch h
  | t :: ts, h => by
    have goes_on : ∀ {rest : List Token} (f : List String → List String),
        rest.length ≤ ts.length → Terminated rest →
        let p : Parser (List String) := typeSuffix >>= fun parts => Pure.pure (f parts)
        Halts Terminated (answersOn p rest) ∨ RunsOn (answersOn p rest) := by
      intro rest f hle hrest
      exact bind_halts_or_runsOn (typeSuffix_halts_or_runsOn hrest) (fun _ => .pure _)
        fun _ => ⟨_, rfl⟩
    simp only [answersOn_cons, typeSuffix_cons]
    split
    · next ht =>
      have htail := h.tail (Token.isMark_of_isMark ht (by decide))
      rcases arguments_halt_or_runOn htail Nat.one_pos with ⟨args, rest, hrest, hargs⟩ | hruns
      · simp only [hargs]
        have hle := (arguments_suffix 1 ts).length_le
        have hnil := hargs []
        simp only [List.append_nil] at hnil
        rw [hnil] at hle
        exact goes_on (typeText t :: args ++ ·) hle hrest
      · refine .inr fun more hmore => ?_
        have hend : typeSuffix [] = .ok [] [] := by rw [typeSuffix]
        dsimp only
        rw [hruns more hmore]
        exact ⟨_, bind_of_ok hend⟩
    split
    · next ht =>
      have htail := h.tail (Token.isMark_of_isMark ht (by decide))
      refine (halting_arrayBound ts htail).bind_or fun _ rest hbound hrest => ?_
      exact goes_on ("[]" :: ·) (shortens_arrayBound.of_ok hbound).length_le hrest
    split
    · next ht =>
      have htail := h.tail (Token.isMark_of_isKeywordOf ht _)
      exact goes_on (" " :: Text.lower t.value :: ·) (Nat.le_refl _) htail
    · exact .inl (.ok [] h)
termination_by ts => ts.length
decreasing_by exact Nat.lt_succ_of_le hle

/-- A type halts or runs on. -/
theorem columnType_halts_or_runsOn (name : String) (h : Terminated ts) :
    Halts Terminated (answersOn (columnType name) ts) ∨
      RunsOn (answersOn (columnType name) ts) := by
  cases ts with
  | nil => cases h
  | cons t ts =>
    simp only [answersOn_cons, columnType_cons]
    split
    · next ht =>
      have hkind : t.kind ≠ .punctuation := by
        rcases ht with ht | ⟨ht, -⟩ <;> rw [ht] <;> decide
      have htail := h.tail (Token.isMark_of_kind hkind _)
      refine (halts_moreNames (by decide) htail).bind_or fun _ rest _ hrest => ?_
      exact bind_halts_or_runsOn (typeSuffix_halts_or_runsOn hrest) (fun _ => .pure _)
        fun _ => ⟨_, rfl⟩
    · exact .inl (.error (by exact nofun) h)

/-- A column halts, or its type runs on. -/
theorem column_halts_or_runsOn (h : Terminated ts) :
    Halts Terminated (answersOn column ts) ∨ RunsOn (answersOn column ts) := by
  refine (halting_identifier ts h).bind_or fun name rest _ hrest => ?_
  exact bind_halts_or_runsOn (columnType_halts_or_runsOn name hrest)
    (fun _ => (halting_element 0).bind fun _ => .pure _) fun _ => ⟨_, rfl⟩

/-! ## Tables -/

/-- A sequence goes on to halt, or stays unfinished. -/
theorem bind_halts_or_unfinished {R : List Token → Prop} {p : Parser α} {f : α → Parser β}
    (hp : Halts R (answersOn p ts) ∨ Unfinished (answersOn p ts))
    (hf : ∀ a rest, R rest → Halts P (answersOn (f a) rest)) :
    Halts P (answersOn (p >>= f) ts) ∨ Unfinished (answersOn (p >>= f) ts) :=
  hp.imp (fun h => h.bind fun a rest _ hrest => hf a rest hrest) fun h => h.bind f

/-- The body of a table halts, or stays unfinished when a column in it runs on. -/
theorem tableBody_halts_or_unfinished (table : String) : ∀ {ts : List Token}, Terminated ts →
    Halts Terminated (answersOn (tableBody table) ts) ∨
      Unfinished (answersOn (tableBody table) ts)
  | [], h => nomatch h
  | t :: ts, h => by
    simp only [answersOn_cons, tableBody_cons]
    split
    · next ht => exact .inl (.ok [] (h.tail (Token.isMark_of_isMark ht (by decide))))
    split
    · next ht =>
      have htail := h.tail (Token.isMark_of_isMark ht (by decide))
      have hlt := Nat.lt_succ_self ts.length
      exact tableBody_halts_or_unfinished table htail
    split
    · next ht =>
      have htail := h.tail (Token.isMark_of_isKeywordOf ht _)
      refine (halting_element 0 ts htail).bind_or fun _ rest helement hrest => ?_
      have hlt := Nat.lt_succ_of_le ((shortens_element 0).of_ok helement).length_le
      exact tableBody_halts_or_unfinished table hrest
    · rcases column_halts_or_runsOn h with hcolumn | hruns
      · refine hcolumn.bind_or fun c rest hc hrest => ?_
        have hlt := length_column_lt hc
        exact bind_halts_or_unfinished (tableBody_halts_or_unfinished table hrest)
          fun _ _ hlast => .ok _ hlast
      · refine .inr (hruns.unfinished table fun c => bind_of_error ?_)
        rw [tableBody]
termination_by ts => ts.length
decreasing_by all_goals exact hlt

/-- Tokens that end in a semicolon, or no tokens. -/
def Ended (ts : List Token) : Prop :=
  ts = [] ∨ Terminated ts

/-- Behind the first of tokens that end in a semicolon are more such tokens, or none. -/
theorem Terminated.ended_tail {t : Token} (h : Terminated (t :: ts)) : Ended ts := by
  cases h with
  | last h => exact .inl rfl
  | cons _ h => exact .inr h

/-- A statement is passed over up to its semicolon. -/
theorem skipStatement_of_terminated (h : Terminated ts) :
    ∃ rest, Ended rest ∧ ∀ more, skipStatement (ts ++ more) = rest ++ more := by
  induction h with
  | @last t h =>
    refine ⟨[], .inl rfl, fun more => ?_⟩
    rw [List.singleton_append, skipStatement, if_pos h, List.nil_append]
  | @cons t ts h ih =>
    by_cases ht : t.isMark ";" = true
    · refine ⟨ts, .inr h, fun more => ?_⟩
      rw [List.cons_append, skipStatement, if_pos ht]
    · obtain ⟨rest, hrest, hmore⟩ := ih
      refine ⟨rest, hrest, fun more => ?_⟩
      rw [List.cons_append, skipStatement, if_neg ht, hmore]

/-- Passing over the rest of a statement halts behind the semicolon. -/
theorem halts_skipStatement (h : Terminated ts) :
    Halts Ended (answersOn (modify skipStatement : Parser PUnit) ts) := by
  obtain ⟨rest, hrest, hmore⟩ := skipStatement_of_terminated h
  have hskip : answersOn (modify skipStatement : Parser PUnit) ts
      = fun more => .ok ⟨⟩ (rest ++ more) :=
    funext fun more => congrArg (EStateM.Result.ok PUnit.unit) (hmore more)
  rw [hskip]
  exact .ok _ hrest

/-- Taking a semicolon that may come halts at it or behind it. -/
theorem halts_acceptSemicolon (h : Terminated ts) :
    Halts Ended (answersOn (acceptMark ";") ts) := by
  have hended : Ended ts := .inr h
  cases ts with
  | nil => cases h
  | cons t ts =>
    rw [answersOn_cons]
    unfold acceptMark accept
    dsimp only
    split
    · exact .ok true h.ended_tail
    · exact .ok false hended

/-- The declaration of a table halts behind the semicolon, or its body stays unfinished. -/
theorem tableDeclaration_halts_or_unfinished (line : Nat) (h : Terminated ts) :
    Halts Ended (answersOn (tableDeclaration line) ts) ∨
      Unfinished (answersOn (tableDeclaration line) ts) := by
  refine (halting_ifNotExists ts h).bind_or fun _ _ _ h => ?_
  refine (halting_qualifiedName _ h).bind_or fun name _ _ h => ?_
  refine (halting_requireMark (by decide) _ h).bind_or fun _ _ _ h => ?_
  refine bind_halts_or_unfinished (tableBody_halts_or_unfinished _ h) fun columns _ h => ?_
  exact (halts_skipStatement h).bind fun _ _ _ h => .ok _ h

/-- A change of a table halts at the semicolon or behind it. -/
theorem halts_tableChange (line : Nat) (h : Terminated ts) :
    Halts Ended (answersOn (tableChange line) ts) := by
  refine (halting_ifExists ts h).bind fun _ _ _ h => ?_
  refine (halting_acceptKeyword _ _ h).bind fun _ _ _ h => ?_
  refine (halting_qualifiedName _ h).bind fun _ _ _ h => ?_
  refine (halts_tableActions _ line h).bind fun _ _ _ h => ?_
  exact (halts_acceptSemicolon h).bind fun _ _ _ h => .ok _ h

/-! ## Statements -/

/-- A semicolon is no bare word. -/
theorem isKeyword_of_semicolon {t : Token} (h : t.isMark ";" = true) (word : String) :
    t.isKeyword word = false := by
  refine Bool.eq_false_iff.2 fun hword => ?_
  rw [Token.isMark_of_isKeyword hword] at h
  cases h

/-- A lone semicolon is an empty statement. -/
theorem statement_of_semicolon {t : Token} (h : t.isMark ";" = true) (ts : List Token) :
    statement (t :: ts) = .ok [] ts := by
  cases ts with
  | nil =>
    rw [statement, skipStatement, if_pos h]
    simp
  | cons u ts =>
    rw [statement_cons, isKeyword_of_semicolon h, isKeyword_of_semicolon h, skipStatement,
      if_pos h, if_neg Bool.false_ne_true, if_neg Bool.false_ne_true, ite_self]

/-- A statement is read up to its semicolon, or it is a table that runs on. -/
theorem statement_halts_or_unfinished {t : Token} (h : Terminated (t :: ts)) :
    Halts Ended (answersOn statement (t :: ts)) ∨ Unfinished (answersOn statement (t :: ts)) := by
  rw [answersOn_cons]
  by_cases ht : t.isMark ";" = true
  · simp only [statement_of_semicolon ht]
    exact .inl (.ok [] h.ended_tail)
  · have htail := h.tail (Bool.eq_false_iff.2 ht)
    cases ts with
    | nil => cases htail
    | cons u us =>
      have skips : Halts Ended fun more =>
          (.ok [] (skipStatement (t :: u :: (us ++ more))) : Parser.Answer (List Statement)) := by
        obtain ⟨rest, hrest, hmore⟩ := skipStatement_of_terminated h
        have hskip : (fun more => (.ok [] (skipStatement (t :: u :: (us ++ more))) :
            Parser.Answer (List Statement))) = fun more => .ok [] (rest ++ more) :=
          funext fun more => congrArg (EStateM.Result.ok []) (hmore more)
        rw [hskip]
        exact .ok [] hrest
      simp only [List.cons_append, statement_cons]
      split
      · next hu =>
        have hrest := htail.tail (Token.isMark_of_isKeyword hu _)
        split
        · exact bind_halts_or_unfinished (tableDeclaration_halts_or_unfinished _ hrest)
            fun _ _ h => .ok _ h
        split
        · exact .inl (halts_tableChange _ hrest)
        · exact .inl skips
      · exact .inl skips

/-- Only the end of the text in a table is worded as such. -/
theorem eq_textEndsInTable_of_message {c : SyntaxError} {table : String}
    (h : c.message = (SyntaxError.textEndsInTable table).message) :
    ∃ other, c = .textEndsInTable other := by
  have hchars := congrArg String.toList h
  unfold SyntaxError.message at hchars
  cases c with
  | textEndsInTable other => exact ⟨other, rfl⟩
  | expected wanted found => cases wanted <;> simp at hchars
  | _ => simp at hchars

/-- Whether the warning says that the text ends in a table. -/
def EndsInTable (w : Warning) : Prop :=
  ∃ table, w.message = (SyntaxError.textEndsInTable table).message

/-- A round reads up to a semicolon, or everything that follows is lost in a table. -/
theorem round_halts_or_unfinished {t : Token} (h : Terminated (t :: ts)) :
    (∃ r rest, Ended rest ∧ (∀ w, r = .inr w → ¬ EndsInTable w) ∧
        ∀ more, Statement.round t (ts ++ more) = (r, rest ++ more)) ∨
      ∃ w, EndsInTable w ∧
        ∀ more, ClosesNone more → Statement.round t (ts ++ more) = (.inr w, []) := by
  rcases statement_halts_or_unfinished h with hhalts | ⟨table, hruns⟩
  · left
    generalize hx : answersOn statement (t :: ts) = x at hhalts
    have hmore : ∀ more, statement (t :: (ts ++ more)) = x more := congrFun hx
    cases hhalts with
    | @ok ss rest hrest =>
      refine ⟨.inl ss, rest, hrest, nofun, fun more => ?_⟩
      rw [Statement.round, hmore]
    | @error c rest hc hrest =>
      obtain ⟨last, hlast, hskip⟩ := skipStatement_of_terminated hrest
      refine ⟨.inr ⟨.syntactic, c.message, some t.place.line⟩, last, hlast, ?_, fun more => ?_⟩
      · rintro _ ⟨⟩ ⟨table, hmessage⟩
        obtain ⟨other, rfl⟩ := eq_textEndsInTable_of_message hmessage
        exact hc other rfl
      · rw [Statement.round, hmore]
        exact congrArg (Prod.mk _) (hskip more)
  · refine .inr ⟨⟨.syntactic, _, some t.place.line⟩, ⟨table, rfl⟩, fun more hmore => ?_⟩
    have herror : statement (t :: (ts ++ more)) = .error (.textEndsInTable table) [] :=
      hruns more hmore
    rw [Statement.round, herror]
    rfl

/-! ## Scripts -/

/-- What a round gives, put before what the further rounds give. -/
def putBefore (r : Round) (more : List Statement × List Warning) :
    List Statement × List Warning :=
  match r with
  | .inl statements => (statements ++ more.1, more.2)
  | .inr warning => (more.1, warning :: more.2)

/-- The statements and warnings of a round come before those of the further rounds. -/
theorem collect_of_round {t : Token} {r : Round} {rest : List Token}
    (h : Statement.round t ts = (r, rest)) : collect (t :: ts) = putBefore r (collect rest) := by
  rw [collect]
  simp only [h]
  cases r <;> rfl

/-- What is put before two parts is put before the first one. -/
theorem putBefore_append (r : Round) (a b : List Statement × List Warning) :
    putBefore r (a.1 ++ b.1, a.2 ++ b.2)
      = ((putBefore r a).1 ++ b.1, (putBefore r a).2 ++ b.2) := by
  cases r with
  | inl statements => simp [putBefore]
  | inr warning => rfl

/-- A warning is that of the round in front or one of the further rounds. -/
theorem mem_putBefore {r : Round} {more : List Statement × List Warning} {w : Warning} :
    w ∈ (putBefore r more).2 ↔ r = .inr w ∨ w ∈ more.2 := by
  cases r with
  | inl statements => simp [putBefore]
  | inr warning => simp [putBefore, eq_comm]

/-- Tokens up to a semicolon are read on their own, and no table of theirs runs on; or one does, and
then all that follows is lost as long as it closes no parenthesis of the table. -/
theorem collect_append_or : ∀ {as : List Token}, Ended as →
    ((∀ bs, collect (as ++ bs)
        = ((collect as).1 ++ (collect bs).1, (collect as).2 ++ (collect bs).2)) ∧
        ∀ w ∈ (collect as).2, ¬ EndsInTable w) ∨
      (∃ w ∈ (collect as).2, EndsInTable w) ∧
        ∀ more, ClosesNone more → collect (as ++ more) = collect as
  | [], _ => by
    have hempty : collect [] = ([], []) := by rw [collect]
    rw [hempty]
    exact .inl ⟨fun bs => rfl, List.forall_mem_nil _⟩
  | t :: ts, h => by
    have hterminated : Terminated (t :: ts) := h.resolve_left (List.cons_ne_nil t ts)
    rcases round_halts_or_unfinished hterminated with ⟨r, rest, hrest, hr, hround⟩ | ⟨w, hw, hround⟩
    · have halone := hround []
      rw [List.append_nil, List.append_nil] at halone
      have hlt : rest.length < (t :: ts).length := by
        have hlength := length_round_lt t ts
        rwa [halone] at hlength
      have hcollect : ∀ more, collect (t :: ts ++ more) = putBefore r (collect (rest ++ more)) :=
        fun more => collect_of_round (hround more)
      rw [collect_of_round halone]
      rcases collect_append_or hrest with ⟨hall, hnone⟩ | ⟨⟨w, hmem, hw⟩, hlost⟩
      · refine .inl ⟨fun bs => ?_, fun w hmem => ?_⟩
        · rw [hcollect, hall, putBefore_append]
        · rcases mem_putBefore.1 hmem with hw | hmem
          · exact hr w hw
          · exact hnone w hmem
      · refine .inr ⟨⟨w, mem_putBefore.2 (.inr hmem), hw⟩, fun more hmore => ?_⟩
        rw [hcollect, hlost more hmore]
    · have hcollect : ∀ more, ClosesNone more →
          collect (t :: ts ++ more) = putBefore (.inr w) (collect []) :=
        fun more hmore => collect_of_round (hround more hmore)
      have halone := hcollect [] fun _ _ => rfl
      rw [List.append_nil] at halone
      rw [halone]
      exact .inr ⟨⟨w, mem_putBefore.2 (.inl rfl), hw⟩, hcollect⟩
termination_by as => as.length
decreasing_by exact hlt

/-- A mark, wherever it stands. -/
def mark (value : String) : Token :=
  ⟨.punctuation, value, .start⟩

/-- The declaration of a table without columns. -/
def emptyTable : List Token :=
  [⟨.word, "create", .start⟩, ⟨.word, "table", .start⟩, ⟨.word, "a", .start⟩, mark ".",
    ⟨.word, "b", .start⟩, mark "(", mark ")", mark ";"]

/-- The parentheses of the declaration of a table close no other. -/
theorem closesNone_emptyTable : ClosesNone emptyTable := by
  intro depth hd
  have hne : depth ≠ 0 := Nat.ne_of_gt hd
  simp [emptyTable, mark, arguments, depthAfter, Token.isMark, hne]

/-- The declaration of a table without columns is read as one. -/
theorem collect_emptyTable : (collect emptyTable).1 = [.createTable ⟨"a", "b", [], []⟩ 1] := by
  decide +kernel

/-- Tokens that end in a semicolon are read on their own, whatever follows them and whatever is
wrong with them, just when no table of theirs runs on to the end of the text. -/
theorem collect_append_iff (as : List Token) {semicolon : Token}
    (h : semicolon.isMark ";" = true) :
    (∀ bs, collect (as ++ semicolon :: bs)
        = ((collect (as ++ [semicolon])).1 ++ (collect bs).1,
          (collect (as ++ [semicolon])).2 ++ (collect bs).2)) ↔
      ∀ w ∈ (collect (as ++ [semicolon])).2, ¬ EndsInTable w := by
  have hcons : ∀ bs, as ++ semicolon :: bs = as ++ [semicolon] ++ bs := List.append_cons as _
  rcases collect_append_or (.inr (Terminated.append as h)) with
    ⟨hall, hnone⟩ | ⟨⟨w, hmem, hw⟩, hlost⟩
  · exact ⟨fun _ => hnone, fun _ bs => by rw [hcons, hall]⟩
  · refine ⟨fun hall => ?_, fun hnone => absurd hw (hnone w hmem)⟩
    -- A declaration that follows is lost, so it is not read behind the others.
    have hread := hall emptyTable
    rw [hcons, hlost _ closesNone_emptyTable, collect_emptyTable] at hread
    have hlength := congrArg (·.1.length) hread
    simp at hlength

/-! A statement with an open body is read on its own; one with open arguments is not. -/

/-- A semicolon ends an open body, and does not end open arguments of a type. -/
theorem collect_openArguments_append :
    let body := (Script.ofText "CREATE TABLE a.b (c int").tokens
    let arguments := (Script.ofText "CREATE TABLE a.b (c varchar(10").tokens
    (mark ";").isMark ";" = true ∧
      (∀ bs, collect (body ++ mark ";" :: bs)
        = ((collect (body ++ [mark ";"])).1 ++ (collect bs).1,
          (collect (body ++ [mark ";"])).2 ++ (collect bs).2)) ∧
      ¬ ∀ bs, collect (arguments ++ mark ";" :: bs)
        = ((collect (arguments ++ [mark ";"])).1 ++ (collect bs).1,
          (collect (arguments ++ [mark ";"])).2 ++ (collect bs).2) := by
  intro body arguments
  have h : (mark ";").isMark ";" = true := by decide
  have hbody : (collect (body ++ [mark ";"])).2
      = [⟨.syntactic, SyntaxError.statementEndsInTable.message, some 1⟩] := by decide +kernel
  have harguments : (collect (arguments ++ [mark ";"])).2
      = [⟨.syntactic, (SyntaxError.textEndsInTable "a.b").message, some 1⟩] := by decide +kernel
  refine ⟨h, (collect_append_iff body h).2 ?_, fun hall => ?_⟩
  · rw [hbody]
    rintro w hw ⟨table, hmessage⟩
    rw [List.mem_singleton.1 hw] at hmessage
    obtain ⟨other, he⟩ := eq_textEndsInTable_of_message (c := .statementEndsInTable) hmessage
    cases he
  · have hnone := (collect_append_iff arguments h).1 hall
    rw [harguments] at hnone
    exact hnone _ (List.mem_singleton_self _) ⟨"a.b", rfl⟩

end SchemaCanvas.Sql
