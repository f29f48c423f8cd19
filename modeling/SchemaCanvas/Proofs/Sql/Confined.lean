import SchemaCanvas.Proofs.Sql.Written

/-!
# Pieces of the body of a table

A piece is a stretch of tokens with balanced parentheses and without a comma outside them. A parser
is confined to a piece when it takes no token after the piece, or fails (`Statement.Confined`).
Parsers that take tokens only when they are none of the marks that structure a table are confined,
and so are sequences of confined parsers (`Statement.Confined.bind`). So a column that starts with a
piece ends with it, if it can be read (`Statement.column_of_piece`).
-/

namespace SchemaCanvas.Sql.Statement

open SchemaCanvas.Sql.Parser

variable {t : Token} {ts : List Token}

/-! ## Pieces -/

/-- Balanced tokens without a comma outside parentheses. -/
def Piece (ts : List Token) : Prop :=
  ∃ outer, Outside ts outer ∧ ∀ t ∈ outer, t.isMark "," = false

/-- No tokens are a piece. -/
theorem Piece.nil : Piece [] :=
  ⟨[], .nil, nofun⟩

/-- A piece is empty, or it starts with a token that is no mark of those that structure a table, or
with a pair of parentheses. -/
theorem Piece.cases (h : Piece ts) :
    ts = [] ∨
      (∃ t more, ts = t :: more ∧ t.isFlat = true ∧ t.isMark "," = false ∧ Piece more) ∨
      ∃ inside hidden more, ts = mark "(" :: (inside ++ mark ")" :: more) ∧
        Outside inside hidden ∧ Piece more := by
  obtain ⟨outer, h, hcomma⟩ := h
  cases h with
  | nil => exact .inl rfl
  | token ht h =>
    obtain ⟨htc, hcomma⟩ := List.forall_mem_cons.1 hcomma
    exact .inr (.inl ⟨_, _, rfl, ht, htc, _, h, hcomma⟩)
  | group hi h =>
    exact .inr (.inr ⟨_, _, _, rfl, hi, _, h, (List.forall_mem_cons.1 hcomma).2⟩)

variable {α β : Type}

/-- Whether an answer is a failure. -/
def Fails (x : Parser.Answer α) : Prop :=
  ∃ cause left, x = .error cause left

/-- On a piece that ends with a comma or a parenthesis the parser fails, or it leaves the end of the
piece. -/
def Confined (p : Parser α) (ts : List Token) : Prop :=
  ∀ t rest, t.Ends → Fails (p (ts ++ t :: rest)) ∨
    ∃ a more, Piece more ∧ more.length ≤ ts.length ∧
      p (ts ++ t :: rest) = .ok a (more ++ t :: rest)

/-- Answering without reading stays on the piece. -/
theorem Confined.pure (h : Piece ts) (a : α) : Confined (Pure.pure a : Parser α) ts :=
  fun _ _ _ => .inr ⟨a, ts, h, Nat.le_refl _, rfl⟩

/-- A sequence stays on a piece when its parts do, the second one on what the first one leaves. -/
theorem Confined.bind {p : Parser α} {f : α → Parser β} (hp : Confined p ts)
    (hf : ∀ a more, Piece more → more.length ≤ ts.length → Confined (f a) more) :
    Confined (p >>= f) ts := by
  intro t rest ht
  rcases hp t rest ht with ⟨cause, left, h⟩ | ⟨a, more, hmore, hlength, h⟩
  · exact .inl ⟨cause, left, bind_of_error h⟩
  rw [bind_of_ok h]
  rcases hf a more hmore hlength t rest ht with hfails | ⟨b, more', hmore', hlength', h'⟩
  · exact .inl hfails
  · exact .inr ⟨b, more', hmore', Nat.le_trans hlength' hlength, h'⟩

/-- Whether a test finds no mark that structures a table. -/
def Spares (f : Token → Bool) : Prop :=
  ∀ t, f t = true → t.isMark "(" = false ∧ t.isMark ")" = false ∧ t.isMark "," = false

/-- A test for another mark finds none of those that structure a table. -/
theorem spares_isMark (value : String) (h : value ≠ "(" ∧ value ≠ ")" ∧ value ≠ ",") :
    Spares (·.isMark value) := fun _ ht =>
  ⟨Token.isMark_of_isMark ht h.1, Token.isMark_of_isMark ht h.2.1, Token.isMark_of_isMark ht h.2.2⟩

/-- A test that finds no punctuation finds none of the marks that structure a table. -/
theorem spares_of_kind {f : Token → Bool} (h : ∀ t, f t = true → t.kind ≠ .punctuation) :
    Spares f := fun t ht =>
  have hmark := Token.isMark_of_kind (h t ht)
  ⟨hmark "(", hmark ")", hmark ","⟩

/-- There is a first token before the end of a piece is passed. A test that spares the marks finds
it only when it is the piece's. -/
theorem Piece.first (h : Piece ts) {f : Token → Bool} (hf : Spares f) (ht : t.Ends)
    (rest : List Token) :
    ∃ u us, ts ++ t :: rest = u :: us ∧
      (f u = true → ∃ more, us = more ++ t :: rest ∧ ts = u :: more ∧ Piece more) := by
  rcases h.cases with rfl | ⟨u, more, rfl, -, -, hmore⟩ | ⟨inside, hidden, more, rfl, -, -⟩
  · refine ⟨t, rest, rfl, fun hu => ?_⟩
    obtain ⟨-, hclose, hcomma⟩ := hf t hu
    rcases ht with ht | ht
    · exact absurd (hcomma.symm.trans ht) Bool.false_ne_true
    · exact absurd (hclose.symm.trans ht) Bool.false_ne_true
  · exact ⟨u, _, rfl, fun _ => ⟨more, rfl, rfl, hmore⟩⟩
  · exact ⟨mark "(", _, rfl, fun hu => absurd (hf _ hu).1 (by decide)⟩

/-- A parser that takes a first token that is as asked and goes on, and else takes nothing or fails,
is confined when what it goes on with is. -/
theorem Confined.of_first (h : Piece ts) {p : Parser α} {f : Token → Bool} (hf : Spares f)
    (hyes : ∀ u more, ts = u :: more → f u = true → Piece more →
      ∃ q, Confined q more ∧ ∀ us, p (u :: us) = q us)
    (hno : ∀ t rest u us, t.Ends → ts ++ t :: rest = u :: us → f u = false →
      Fails (p (u :: us)) ∨ ∃ a, p (u :: us) = .ok a (u :: us)) :
    Confined p ts := by
  intro t rest ht
  obtain ⟨u, us, hts, hpiece⟩ := h.first hf ht rest
  cases hu : f u with
  | true =>
    obtain ⟨more, rfl, hcons, hmore⟩ := hpiece hu
    obtain ⟨q, hq, hp⟩ := hyes u more hcons hu hmore
    rw [hts, hp]
    rcases hq t rest ht with hfails | ⟨a, left, hleft, hlength, hok⟩
    · exact .inl hfails
    · exact .inr ⟨a, left, hleft, hcons ▸ Nat.le_succ_of_le hlength, hok⟩
  | false =>
    rcases hno t rest u us ht hts hu with ⟨cause, left, hfails⟩ | ⟨a, hok⟩
    · exact .inl ⟨cause, left, by rw [hts, hfails]⟩
    · exact .inr ⟨a, ts, h, Nat.le_refl _, by rw [hts, hok]⟩

/-- A token that may come is taken from the piece, if the test spares the marks that structure
it. -/
theorem confined_accept (h : Piece ts) {f : Token → Bool} (hf : Spares f) :
    Confined (accept f) ts := by
  refine .of_first h hf (fun u more _ hu hmore => ⟨_, .pure hmore true, fun us => ?_⟩)
    fun t rest u us _ _ hu => .inr ⟨false, ?_⟩
  · rw [accept, if_pos hu]
    rfl
  · rw [accept, hu]
    rfl

/-- A token that must come is taken from the piece, if the test spares the marks that structure
it. -/
theorem confined_require (h : Piece ts) (wanted : Wanted) {f : Token → Bool} (hf : Spares f) :
    Confined (require wanted f) ts := by
  refine .of_first h hf (fun u more _ hu hmore => ⟨_, .pure hmore (), fun us => ?_⟩)
    fun t rest u us _ _ hu => .inl ?_
  · rw [require, if_pos hu]
    rfl
  · rw [require, hu]
    exact ⟨_, _, rfl⟩

/-- A name is taken from the piece. -/
theorem confined_identifier (h : Piece ts) : Confined identifier ts := by
  have hf : Spares fun u => u.identifier?.isSome := spares_of_kind fun u hu hk => by
    rw [Token.identifier?, hk] at hu
    cases hu
  refine .of_first h hf (fun u more _ hu hmore => ?_) fun t rest u us _ _ hu => .inl ?_
  · obtain ⟨name, hname⟩ := Option.isSome_iff_exists.1 hu
    exact ⟨_, .pure hmore name, fun us => by rw [identifier, hname]; rfl⟩
  · have hnone : u.identifier? = none := by simpa using hu
    rw [identifier, hnone]
    exact ⟨_, _, rfl⟩

/-- Names with separators are taken from the piece, unless the separator structures a table. -/
theorem confined_moreNames (h : Piece ts) {separator : String}
    (hne : separator ≠ "(" ∧ separator ≠ ")" ∧ separator ≠ ",") :
    Confined (moreNames separator) ts := by
  induction hn : ts.length using Nat.strongRecOn generalizing ts with
  | ind n ih =>
    refine .of_first h (spares_isMark separator hne)
      (fun u more hcons hu hmore => ⟨_, ?_, fun us => by rw [moreNames_cons, if_pos hu]⟩)
      fun t rest u us _ _ hu => .inr ⟨[], by rw [moreNames_cons, hu]; rfl⟩
    refine (confined_identifier hmore).bind fun name path hpath hlength => ?_
    have hshorter : path.length < n := by
      rw [← hn, hcons]
      exact Nat.lt_succ_of_le hlength
    exact (ih _ hshorter hpath rfl).bind fun _ _ hleft _ => .pure hleft _

/-- An array bound is taken from the piece. -/
theorem confined_arrayBound (h : Piece ts) : Confined arrayBound ts := by
  have hnumber : Spares fun u => decide (u.kind = .number) := spares_of_kind fun u hu hk => by
    rw [hk] at hu
    cases hu
  exact (confined_accept h hnumber).bind fun _ _ hmore _ =>
    confined_require hmore _ (spares_isMark "]" (by decide))

/-- What may follow the name of a type is taken from the piece. -/
theorem confined_typeSuffix (h : Piece ts) : Confined typeSuffix ts := by
  induction hn : ts.length using Nat.strongRecOn generalizing ts with
  | ind n ih =>
    -- `of_first` allows no opening parenthesis as the first token, so a piece that starts with a
    -- pair of parentheses is a case of its own: the arguments take the pair as a whole.
    by_cases hgroup : ∃ inside hidden more, ts = mark "(" :: (inside ++ mark ")" :: more) ∧
        Outside inside hidden ∧ Piece more
    · obtain ⟨inside, hidden, more, rfl, hinside, hmore⟩ := hgroup
      have hshorter : more.length < n := by
        rw [← hn, List.length_cons, List.length_append, List.length_cons]
        omega
      intro t rest ht
      rw [List.cons_append, List.append_assoc, List.cons_append, typeSuffix_cons,
        if_pos (isMark_mark "("), arguments_closed hinside]
      rcases (ih _ hshorter hmore rfl).bind (fun _ _ hleft _ => .pure hleft _) t rest ht with
        hfails | ⟨a, left, hleft, hlength, hok⟩
      · exact .inl hfails
      · exact .inr ⟨a, left, hleft, by omega, hok⟩
    · have hopen : ∀ t rest u us, t.Ends → ts ++ t :: rest = u :: us → u.isMark "(" = false := by
        intro t rest u us ht hcons
        rcases h.cases with rfl | ⟨v, more, rfl, hv, -, -⟩ | hts
        · cases hcons
          exact ht.isMark (by decide) (by decide)
        · cases hcons
          exact (Token.isFlat_iff.1 hv).1
        · exact absurd hts hgroup
      have hf : Spares fun u => u.isMark "[" || u.isKeywordOf typeContinuationWords := by
        intro u hu
        rcases Bool.or_eq_true_iff.1 hu with hu | hu
        · exact spares_isMark "[" (by decide) u hu
        · exact ⟨Token.isMark_of_isKeywordOf hu _, Token.isMark_of_isKeywordOf hu _,
            Token.isMark_of_isKeywordOf hu _⟩
      refine .of_first h hf (fun u more hcons hu hmore => ?_) fun t rest u us ht hcons hu => ?_
      · have hshorter : ∀ {left : List Token}, left.length ≤ more.length → left.length < n := by
          intro left hlength
          rw [← hn, hcons]
          exact Nat.lt_succ_of_le hlength
        have hnopen : ¬ u.isMark "(" = true := by simp [(hf u hu).1]
        by_cases hbracket : u.isMark "[" = true
        · refine ⟨_, ?_, fun us => by rw [typeSuffix_cons, if_neg hnopen, if_pos hbracket]⟩
          exact (confined_arrayBound hmore).bind fun _ _ hafter hlength =>
            (ih _ (hshorter hlength) hafter rfl).bind fun _ _ hleft _ => .pure hleft _
        · have hword := (Bool.or_eq_true_iff.1 hu).resolve_left hbracket
          refine ⟨_, ?_, fun us => by
            rw [typeSuffix_cons, if_neg hnopen, if_neg hbracket, if_pos hword]⟩
          exact (ih _ (hshorter (Nat.le_refl _)) hmore rfl).bind fun _ _ hleft _ => .pure hleft _
      · obtain ⟨hbracket, hword⟩ := Bool.or_eq_false_iff.1 hu
        refine .inr ⟨[], ?_⟩
        rw [typeSuffix_cons, hopen t rest u us ht hcons, hbracket, hword]
        rfl

/-- A type is taken from the piece. -/
theorem confined_columnType (h : Piece ts) (name : String) : Confined (columnType name) ts := by
  have hf : Spares fun u => decide
      (u.kind = .quoted ∨ (u.kind = .word ∧ u.isKeywordOf typeEndWords = false)) :=
    spares_of_kind fun u hu hk => by simp [hk] at hu
  refine .of_first h hf (fun u more hcons hu hmore => ⟨_, ?_, fun us => by
    rw [columnType_cons, if_pos (of_decide_eq_true hu)]⟩) fun t rest u us ht hcons hu => .inl ?_
  · exact (confined_moreNames hmore (by decide)).bind fun _ _ hpath _ =>
      (confined_typeSuffix hpath).bind fun _ _ hleft _ => .pure hleft _
  · rw [columnType_cons, if_neg (of_decide_eq_false hu)]
    exact ⟨_, _, rfl⟩

/-- A column that starts with a piece ends with it, if it can be read. -/
theorem column_of_piece (h : Piece ts) (ht : t.Ends) (rest : List Token) :
    Fails (column (ts ++ t :: rest)) ∨ ∃ c, column (ts ++ t :: rest) = .ok c (t :: rest) := by
  unfold column columnDefinition
  rcases confined_identifier h t rest ht with ⟨cause, left, hfails⟩ | ⟨name, more, hmore, -, hname⟩
  · exact .inl ⟨cause, left, bind_of_error hfails⟩
  rw [bind_of_ok hname]
  rcases confined_columnType hmore name t rest ht with
    ⟨cause, left, hfails⟩ | ⟨type, left, ⟨outer, houter, hcomma⟩, -, htype⟩
  · exact .inl ⟨cause, left, bind_of_error hfails⟩
  rw [bind_of_ok htype, bind_of_ok (element_outside houter hcomma ht rest)]
  exact .inr ⟨_, rfl⟩

end SchemaCanvas.Sql.Statement
