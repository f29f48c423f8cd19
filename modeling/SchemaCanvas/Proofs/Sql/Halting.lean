import SchemaCanvas.Proofs.Sql.Steps

/-!
# Parsers that stop at a semicolon

A parser halts on tokens that end in a semicolon when it leaves the semicolon, after a failure too,
and answers the same whatever follows (`Halts`). Small parsers halt on all such tokens, since they
take no semicolon (`Halting`), and so do sequences of parsers that halt (`Halting.bind`).
-/

namespace SchemaCanvas.Sql

open SchemaCanvas.Sql.Parser SchemaCanvas.Sql.Statement

/-! ## Semicolons -/

/-- Tokens the last one of which is a semicolon. -/
inductive Terminated : List Token → Prop
  | last {t : Token} (h : t.isMark ";" = true) : Terminated [t]
  | cons (t : Token) {ts : List Token} (h : Terminated ts) : Terminated (t :: ts)

/-- Tokens with a semicolon put behind them end in a semicolon. -/
theorem Terminated.append (ts : List Token) {t : Token} (h : t.isMark ";" = true) :
    Terminated (ts ++ [t]) := by
  induction ts with
  | nil => exact .last h
  | cons u ts ih => exact .cons u ih

/-- A semicolon comes after every other token. -/
theorem Terminated.tail {t : Token} {ts : List Token} (h : Terminated (t :: ts))
    (ht : t.isMark ";" = false) : Terminated ts := by
  cases h with
  | last h =>
    rw [ht] at h
    cases h
  | cons _ h => exact h

namespace Token

variable {t : Token}

/-- A token that is no punctuation is no mark. -/
theorem isMark_of_kind (h : t.kind ≠ .punctuation) (mark : String) : t.isMark mark = false := by
  rw [isMark, decide_eq_false h, Bool.false_and]

/-- A token is one mark only. -/
theorem isMark_of_isMark {mark other : String} (h : t.isMark mark = true) (hne : mark ≠ other) :
    t.isMark other = false := by
  rw [isMark, Bool.and_eq_true, decide_eq_true_eq, decide_eq_true_eq] at h
  rw [isMark, h.2, decide_eq_false hne, Bool.and_false]

/-- A bare word is no mark. -/
theorem isMark_of_keyword? {word : String} (h : t.keyword? = some word) (mark : String) :
    t.isMark mark = false := by
  refine isMark_of_kind (fun hk => ?_) mark
  rw [keyword?, hk] at h
  cases h

/-- A token that is a given bare word is no mark. -/
theorem isMark_of_isKeyword {word : String} (h : t.isKeyword word = true) (mark : String) :
    t.isMark mark = false :=
  isMark_of_keyword? (of_decide_eq_true h) mark

/-- A token that is one of some bare words is no mark. -/
theorem isMark_of_isKeywordOf {words : List String} (h : t.isKeywordOf words = true)
    (mark : String) : t.isMark mark = false := by
  rw [isKeywordOf] at h
  split at h
  · next hword => exact isMark_of_keyword? hword mark
  · cases h

/-- A token that writes a name is no mark. -/
theorem isMark_of_identifier? {name : String} (h : t.identifier? = some name) (mark : String) :
    t.isMark mark = false := by
  refine isMark_of_kind (fun hk => ?_) mark
  rw [identifier?, hk] at h
  cases h

end Token

/-! ## Halting -/

variable {α β : Type} {P : List Token → Prop} {ts : List Token}

/-- What a parser answers on tokens, as it depends on what follows them. -/
def answersOn (p : Parser α) (ts more : List Token) : Parser.Answer α :=
  p (ts ++ more)

/-- When nothing follows, a parser answers what it answers on the tokens. -/
theorem answersOn_nil (p : Parser α) (ts : List Token) : answersOn p ts [] = p ts := by
  rw [answersOn, List.append_nil]

/-- An answer that takes nothing of what follows: a value that leaves tokens of a certain form, or a
failure that leaves a semicolon, both before what follows. The end of the text is no cause. -/
inductive Halts (P : List Token → Prop) : (List Token → Parser.Answer α) → Prop
  | ok (a : α) {rest : List Token} (h : P rest) : Halts P fun more => .ok a (rest ++ more)
  | error {c : SyntaxError} {rest : List Token} (hc : ∀ table, c ≠ .textEndsInTable table)
    (h : Terminated rest) : Halts P fun more => .error c (rest ++ more)

/-- A parser that halts on all tokens that end in a semicolon, and leaves the semicolon. -/
def Halting (p : Parser α) : Prop :=
  ∀ ts, Terminated ts → Halts Terminated (answersOn p ts)

/-- After a parser that halts, a sequence does what the next parser does. -/
theorem Halts.bind_or {R : List Token → Prop} {Q : (List Token → Parser.Answer β) → Prop}
    {p : Parser α} {f : α → Parser β} (hp : Halts R (answersOn p ts))
    (hf : ∀ a rest, p ts = .ok a rest → R rest →
      Halts P (answersOn (f a) rest) ∨ Q (answersOn (f a) rest)) :
    Halts P (answersOn (p >>= f) ts) ∨ Q (answersOn (p >>= f) ts) := by
  generalize hx : answersOn p ts = x at hp
  have happend : ∀ more, p (ts ++ more) = x more := congrFun hx
  have hnil : p ts = x [] := by rw [← hx, answersOn_nil]
  cases hp with
  | @ok a rest h =>
    simp only [List.append_nil] at hnil
    have hbind : answersOn (p >>= f) ts = answersOn (f a) rest :=
      funext fun more => bind_of_ok (happend more)
    rw [hbind]
    exact hf a rest hnil h
  | @error c rest hc h =>
    have hbind : answersOn (p >>= f) ts = fun more => .error c (rest ++ more) :=
      funext fun more => bind_of_error (happend more)
    rw [hbind]
    exact .inl (.error hc h)

/-- A sequence halts when its first part does, and its second part does on what the first one
leaves. -/
theorem Halts.bind {R : List Token → Prop} {p : Parser α} {f : α → Parser β}
    (hp : Halts R (answersOn p ts))
    (hf : ∀ a rest, p ts = .ok a rest → R rest → Halts P (answersOn (f a) rest)) :
    Halts P (answersOn (p >>= f) ts) :=
  (hp.bind_or (Q := fun _ => False) fun a rest h ht => .inl (hf a rest h ht)).resolve_right id

/-- Answering without reading halts. -/
theorem Halting.pure (a : α) : Halting (Pure.pure a : Parser α) :=
  fun _ h => .ok a h

/-- Failing without reading halts, unless the cause is the end of the text. -/
theorem Halting.throw {c : SyntaxError} (hc : ∀ table, c ≠ .textEndsInTable table) :
    Halting (throw c : Parser α) :=
  fun _ h => .error hc h

/-- A sequence of parsers that halt halts. -/
theorem Halting.bind {p : Parser α} {f : α → Parser β} (hp : Halting p)
    (hf : ∀ a, Halting (f a)) : Halting (p >>= f) :=
  fun ts h => (hp ts h).bind fun a rest _ hrest => hf a rest hrest

/-- A choice between parsers that halt halts. -/
theorem Halting.ite {c : Prop} [Decidable c] {p q : Parser α} (hp : Halting p) (hq : Halting q) :
    Halting (if c then p else q) := by
  split <;> assumption

/-! ## Small parsers -/

/-- The first token comes before the others, whatever follows them. -/
theorem answersOn_cons (p : Parser α) (t : Token) (ts : List Token) :
    answersOn p (t :: ts) = fun more => p (t :: (ts ++ more)) := rfl

/-- Failing because something else is wanted halts. -/
theorem halting_failWanted (wanted : Wanted) : Halting (failWanted wanted : Parser α) := by
  intro ts h
  cases ts with
  | nil => cases h
  | cons t ts => exact Halts.error (c := .expected wanted ⟨some t.kind, t.value⟩) nofun h

/-- Taking a token that may come halts when the test takes no semicolon. -/
theorem halting_accept {f : Token → Bool} (hf : ∀ t, f t = true → t.isMark ";" = false) :
    Halting (accept f) := by
  intro ts h
  cases ts with
  | nil => cases h
  | cons t ts =>
    rw [answersOn_cons]
    unfold accept
    dsimp only
    split
    · next ht => exact .ok true (h.tail (hf t ht))
    · exact .ok false h

/-- Taking a token that must come halts when the test takes no semicolon. -/
theorem halting_require (wanted : Wanted) {f : Token → Bool}
    (hf : ∀ t, f t = true → t.isMark ";" = false) : Halting (require wanted f) := by
  intro ts h
  cases ts with
  | nil => cases h
  | cons t ts =>
    rw [answersOn_cons]
    unfold require
    dsimp only
    split
    · next ht => exact .ok () (h.tail (hf t ht))
    · exact halting_failWanted wanted _ h

/-- Looking at the first token halts. -/
theorem halting_startsWith (f : Token → Bool) : Halting (startsWith f) := by
  intro ts h
  cases ts with
  | nil => cases h
  | cons t ts => exact .ok (f t) h

/-- Checking a condition halts, unless its failure is the end of the text. -/
theorem halting_ensure (condition : Bool) {c : SyntaxError}
    (hc : ∀ table, c ≠ .textEndsInTable table) : Halting (ensure condition c) :=
  .ite (.pure ()) (.throw hc)

/-- Another mark than the semicolon may be taken. -/
theorem halting_acceptMark {mark : String} (h : mark ≠ ";") : Halting (acceptMark mark) :=
  halting_accept fun _ ht => Token.isMark_of_isMark ht h

/-- A bare word may be taken, since it is no semicolon. -/
theorem halting_acceptKeyword (word : String) : Halting (acceptKeyword word) :=
  halting_accept fun _ ht => Token.isMark_of_isKeyword ht _

/-- Another mark than the semicolon may be asked for. -/
theorem halting_requireMark {mark : String} (h : mark ≠ ";") : Halting (requireMark mark) :=
  halting_require _ fun _ ht => Token.isMark_of_isMark ht h

/-- A bare word may be asked for, since it is no semicolon. -/
theorem halting_requireKeyword (word : String) : Halting (requireKeyword word) :=
  halting_require _ fun _ ht => Token.isMark_of_isKeyword ht _

/-! ## Names -/

/-- A name takes no semicolon. -/
theorem halting_identifier : Halting identifier := by
  intro ts h
  cases ts with
  | nil => cases h
  | cons t ts =>
    rw [answersOn_cons]
    unfold identifier
    dsimp only
    cases ht : t.identifier? with
    | some name => exact .ok name (h.tail (Token.isMark_of_identifier? ht _))
    | none => exact halting_failWanted .identifier _ h

/-- A qualified name takes no semicolon. -/
theorem halting_qualifiedName : Halting qualifiedName :=
  halting_identifier.bind fun _ => (halting_acceptMark (by decide)).bind fun _ =>
    (halting_ensure _ (by exact nofun)).bind fun _ => halting_identifier.bind fun _ =>
      (halting_startsWith _).bind fun _ => (halting_ensure _ (by exact nofun)).bind fun _ =>
        (halting_ensure _ (by exact nofun)).bind fun _ => .pure _

/-- A name leaves no more tokens than there were. -/
theorem length_le_of_identifier {name : String} {rest : List Token}
    (h : identifier ts = .ok name rest) : rest.length ≤ ts.length :=
  (shortens_identifier.of_ok h).length_le

/-- Names with another separator than the semicolon take no semicolon. -/
theorem halts_moreNames {separator : String} (hne : separator ≠ ";") :
    ∀ {ts : List Token}, Terminated ts → Halts Terminated (answersOn (moreNames separator) ts)
  | [], h => nomatch h
  | t :: ts, h => by
    simp only [answersOn_cons, moreNames_cons]
    split
    · next ht =>
      have htail := h.tail (Token.isMark_of_isMark ht hne)
      refine (halting_identifier ts htail).bind fun name rest hname hrest => ?_
      have := length_le_of_identifier hname
      exact (halts_moreNames hne hrest).bind fun _ _ _ hlast => .ok _ hlast
    · exact .ok [] h
termination_by ts => ts.length
decreasing_by exact Nat.lt_succ_of_le this

/-- A list of names takes no semicolon. -/
theorem halting_nameList : Halting nameList :=
  (halting_requireMark (by decide)).bind fun _ => halting_identifier.bind fun _ =>
    Halting.bind (fun _ h => halts_moreNames (by decide) h) fun _ =>
      (halting_requireMark (by decide)).bind fun _ => .pure _

/-! ## Columns -/

/-- An element of a table fails at a semicolon and leaves it. -/
theorem halting_element (depth : Nat) : Halting (element depth) := by
  intro ts h
  induction ts generalizing depth with
  | nil => cases h
  | cons t ts ih =>
    simp only [answersOn_cons, element_cons]
    split
    · exact .error (by exact nofun) h
    split
    · exact .ok [] h
    · next ht _ =>
      exact (ih _ (h.tail (Bool.eq_false_iff.2 ht))).bind fun _ _ _ hrest => .ok _ hrest

/-- An array bound takes no semicolon. -/
theorem halting_arrayBound : Halting arrayBound := by
  refine Halting.bind (halting_accept fun t ht => Token.isMark_of_kind ?_ _) fun _ =>
    halting_requireMark (by decide)
  rw [of_decide_eq_true ht]
  decide

/-! ## Changes of tables -/

/-- The words IF NOT EXISTS take no semicolon. -/
theorem halting_ifNotExists : Halting ifNotExists :=
  (halting_acceptKeyword _).bind fun _ =>
    .ite ((halting_requireKeyword _).bind fun _ => halting_requireKeyword _) (.pure _)

/-- The words IF EXISTS take no semicolon. -/
theorem halting_ifExists : Halting ifExists :=
  (halting_acceptKeyword _).bind fun _ => .ite (halting_requireKeyword _) (.pure _)

/-- A foreign key takes no semicolon. -/
theorem halting_foreignKeyClause (table : String) : Halting (foreignKeyClause table) :=
  halting_nameList.bind fun _ => (halting_requireKeyword _).bind fun _ =>
    halting_qualifiedName.bind fun _ =>
      Halting.bind ((halting_startsWith _).bind fun _ => .ite halting_nameList (.pure _))
        fun _ => .pure _

/-- What an action adds takes no semicolon. -/
theorem halting_addedKey (table : String) (line : Nat) : Halting (addedKey table line) := by
  refine Halting.bind ?_ fun _ => (halting_acceptKeyword _).bind fun _ => .ite ?_ ?_
  · exact (halting_acceptKeyword _).bind fun _ =>
      .ite (halting_identifier.bind fun _ => .pure _) (.pure _)
  · exact (halting_requireKeyword _).bind fun _ => halting_nameList.bind fun _ => .pure _
  · refine (halting_acceptKeyword _).bind fun _ => .ite ?_ (.pure _)
    exact (halting_requireKeyword _).bind fun _ =>
      (halting_foreignKeyClause table).bind fun _ => .pure _

/-- An action on a table takes no semicolon. -/
theorem halting_tableAction (table : String) (line : Nat) : Halting (tableAction table line) :=
  (halting_acceptKeyword _).bind fun _ => .ite (halting_addedKey table line) (.pure _)

/-- An action ends at a token before the last semicolon, or there. -/
theorem skipAction_of_terminated (h : Terminated ts) (depth : Nat) :
    ∃ t rest, skipAction depth ts = t :: rest ∧ Terminated (t :: rest) ∧
      ∀ more, skipAction depth (ts ++ more) = t :: (rest ++ more) := by
  induction h generalizing depth with
  | @last t h =>
    refine ⟨t, [], ?_, .last h, fun more => ?_⟩
    · rw [skipAction, if_pos (.inl h)]
    · rw [List.singleton_append, skipAction, if_pos (.inl h), List.nil_append]
  | cons t h ih =>
    by_cases hstop : t.isMark ";" = true ∨ (t.isMark "," = true ∧ depth = 0)
    · refine ⟨t, _, ?_, .cons t h, fun more => ?_⟩
      · rw [skipAction, if_pos hstop]
      · rw [List.cons_append, skipAction, if_pos hstop]
    · obtain ⟨u, rest, hskip, hrest, hmore⟩ := ih (depthAfter depth t)
      refine ⟨u, rest, ?_, hrest, fun more => ?_⟩
      · rw [skipAction, if_neg hstop, hskip]
      · rw [List.cons_append, skipAction, if_neg hstop, hmore]

/-- All actions on a table, with commas between them, take no semicolon. -/
theorem halts_tableActions (table : String) (line : Nat) {ts : List Token} (h : Terminated ts) :
    Halts Terminated (answersOn (tableActions table line) ts) := by
  have hactions : answersOn (tableActions table line) ts
      = answersOn (tableAction table line >>= moreActions table line) ts :=
    funext fun more => tableActions_eq table line (ts ++ more)
  rw [hactions]
  refine (halting_tableAction table line ts h).bind fun statement after hafter hleft => ?_
  obtain ⟨t, rest, hskip, hrest, hmore⟩ := skipAction_of_terminated hleft 0
  have hsuffix := (shortens_tableAction table line).of_ok hafter
  have hlt : rest.length < ts.length := by
    have hlength := (skipAction_suffix 0 after).length_le
    rw [hskip, List.length_cons] at hlength
    exact Nat.lt_of_lt_of_le hlength hsuffix.length_le
  have hstep : answersOn (moreActions table line statement) after
      = fun more => if t.isMark "," then
          bind (m := Parser) (tableActions table line)
            (fun statements => Pure.pure (statement.toList ++ statements)) (rest ++ more)
        else .ok statement.toList (t :: (rest ++ more)) :=
    funext fun more => moreActions_of_cons (hmore more)
  rw [hstep]
  split
  · next ht =>
    have htail := hrest.tail (Token.isMark_of_isMark ht (by decide))
    exact (halts_tableActions table line htail).bind fun _ _ _ hlast => .ok _ hlast
  · exact .ok _ hrest
termination_by ts.length

end SchemaCanvas.Sql
