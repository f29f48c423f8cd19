import SchemaCanvas.Proofs.Sql.Rounds
import SchemaCanvas.Sql.Cursor

/-!
# Reading at a cursor

Statements are read off the list of the tokens of a script; a cursor reads the script in place. The
tokens from the cursor on, `Cursor.rest`, tie the two. A reader follows a parser (`Follows`) when it
answers, at every cursor, what the parser answers on these tokens, and leaves the cursor before the
tokens that the parser leaves. Each operation of a cursor follows the parser of the same name, and
sequences of readers follow sequences of parsers (`Follows.bind`). There is a reader that follows a
parser exactly when the parser leaves a tail of its tokens (`exists_follows_iff`), and only one
(`Follows.unique`); so the statements of a script can be read at a cursor
(`exists_follows_statement`).
-/

namespace SchemaCanvas.Sql

/-- Whether the token is of the kind and, when a value is given, has that value. -/
def Token.isOf (t : Token) (kind : Token.Kind) (value : Option String) : Bool :=
  decide (t.kind = kind) && value.all (· = t.value)

/-- A punctuation mark is a token of that kind with the mark as its value. -/
theorem Token.isOf_punctuation (t : Token) (mark : String) :
    t.isOf .punctuation (some mark) = t.isMark mark := by
  simp [Token.isOf, Token.isMark, eq_comm]

/-- A bare word is one of the words of a list that holds nothing else. -/
theorem Token.isKeywordOf_singleton (t : Token) (word : String) :
    t.isKeywordOf [word] = t.isKeyword word := by
  unfold Token.isKeywordOf Token.isKeyword
  cases t.keyword? <;> simp

namespace Cursor

variable {α β : Type} {c d e : Cursor}

/-! ## The tokens from the cursor on -/

/-- The cursor stands in its script, or at the end of it. -/
def Inside (c : Cursor) : Prop :=
  c.position ≤ c.script.tokens.length

/-- The cursor at the start stands in its script. -/
theorem inside_start (script : Script) : (start script).Inside :=
  Nat.zero_le _

@[simp] theorem rest_start (script : Script) : (start script).rest = script.tokens :=
  rfl

/-- The tokens from the cursor on are a tail of the script. -/
theorem rest_suffix (c : Cursor) : c.rest <:+ c.script.tokens :=
  List.drop_suffix _ _

/-- The tokens before the cursor and those from it on are all tokens of the script. -/
theorem position_add_length_rest (h : c.Inside) :
    c.position + c.rest.length = c.script.tokens.length := by
  rw [rest, List.length_drop]
  exact Nat.add_sub_of_le h

/-- A cursor in a script is told by the tokens from it on. -/
theorem eq_of_rest (hc : c.Inside) (hd : d.Inside) (hscript : d.script = c.script)
    (hrest : d.rest = c.rest) : d = c := by
  have hcount := position_add_length_rest hc
  have hcount' := position_add_length_rest hd
  rw [hscript, hrest] at hcount'
  obtain ⟨script, position⟩ := c
  obtain ⟨script', position'⟩ := d
  cases hscript
  exact congrArg (Cursor.mk script) (by dsimp only at hcount hcount'; omega)

/-- Passing the token at the cursor leaves the tokens after it. -/
theorem rest_advance (c : Cursor) : c.advance.rest = c.rest.tail := by
  unfold advance
  split
  · next h => rw [h, List.tail_nil]
  · exact List.tail_drop.symm

/-- The token at the cursor is the one no place ahead of it. -/
theorem lookAhead_zero (c : Cursor) : c.lookAhead 0 = c.peek :=
  List.head?_eq_getElem?.symm

/-- What is further ahead is what is ahead once the token at the cursor is passed. -/
theorem lookAhead_succ (c : Cursor) (n : Nat) : c.lookAhead (n + 1) = c.advance.lookAhead n := by
  rw [lookAhead, lookAhead, rest_advance, List.getElem?_tail]

/-- There is no token at the cursor exactly at the end. -/
theorem peek_eq_none_iff : c.peek = none ↔ c.atEnd = true := by
  rw [peek, List.head?_eq_none_iff, atEnd, List.isEmpty_iff]

/-- `d` is where `c` can get by passing tokens: in the same script, not before `c` and not past the
end. -/
structure Passes (c d : Cursor) : Prop where
  script_eq : d.script = c.script
  position_le : c.position ≤ d.position
  inside : d.Inside

/-- A cursor that stays is one that passes no token. -/
theorem Passes.refl (h : c.Inside) : Passes c c :=
  ⟨rfl, Nat.le_refl _, h⟩

/-- Passing tokens twice is passing tokens. -/
theorem Passes.trans (h : Passes c d) (h' : Passes d e) : Passes c e :=
  ⟨h'.script_eq.trans h.script_eq, Nat.le_trans h.position_le h'.position_le, h'.inside⟩

/-- The token at the cursor is passed without leaving the script. -/
theorem Passes.advance (h : c.Inside) : Passes c c.advance := by
  unfold Cursor.advance
  split
  · exact .refl h
  · next t ts hrest =>
    have hcount := position_add_length_rest h
    rw [hrest, List.length_cons] at hcount
    exact ⟨rfl, Nat.le_succ _, by unfold Inside; dsimp only; omega⟩

/-- A cursor that has passed tokens can be put back to where it was. -/
theorem Passes.restore (h : Passes c d) : d.restore c.position = c := by
  obtain ⟨script, position⟩ := c
  obtain ⟨script', position'⟩ := d
  cases h.script_eq
  rfl

/-! ## What is at the cursor -/

/-- A token of a kind is at the cursor exactly if the first token from it on is one. -/
theorem isAt_some (c : Cursor) (kind : Token.Kind) (value : Option String) :
    c.isAt (some kind) value = c.peek.any (·.isOf kind value) := by
  unfold isAt peek
  cases c.rest with
  | nil => rfl
  | cons t ts =>
    have hkind : decide (some t.kind = some kind) = decide (t.kind = kind) :=
      decide_eq_decide.2 Option.some_inj
    exact congrArg (· && value.all (· = t.value)) hkind

/-- The end, of which no kind is given, is at the cursor that has no token; its value is empty. -/
theorem isAt_none (c : Cursor) (value : Option String) :
    c.isAt none value = (c.atEnd && value.all (· = "")) := by
  unfold isAt atEnd
  cases c.rest <;> rfl

/-- The end is found but not passed. -/
theorem accept_none (c : Cursor) (value : Option String) :
    c.accept none value = (c.isAt none value, c) := by
  unfold accept
  split
  · next h =>
    have hend := h
    rw [isAt_none, Bool.and_eq_true, atEnd, List.isEmpty_iff] at hend
    rw [h, advance, hend.1]
  · next h => rw [Bool.eq_false_iff.2 h]

/-! ## Readers and parsers -/

/-- Reads a value off a script at a cursor, and leaves the cursor somewhere. -/
abbrev Reader (α : Type) := EStateM SyntaxError Cursor α

/-- The answer of a reader, with the tokens from the cursor on in place of the cursor. -/
def Reader.answer : EStateM.Result SyntaxError Cursor α → Parser.Answer α
  | .ok a d => .ok a d.rest
  | .error cause d => .error cause d.rest

/-- Where a reader leaves the cursor. -/
def Reader.left : EStateM.Result SyntaxError Cursor α → Cursor
  | .ok _ d => d
  | .error _ d => d

/-- What a reader leaves is what is left from its cursor on. -/
theorem Reader.left_answer (result : EStateM.Result SyntaxError Cursor α) :
    Parser.left (answer result) = (left result).rest := by
  cases result <;> rfl

/-- The reader of an operation that answers and may pass the token at the cursor. -/
def Reader.ofAnswer (op : Cursor → Bool × Cursor) : Reader Bool := fun c =>
  .ok (op c).1 (op c).2

/-- The reader of an operation that passes the token at the cursor, or fails where it is. -/
def Reader.ofResult (op : Cursor → Except SyntaxError Cursor) : Reader Unit := fun c =>
  match op c with
  | .ok d => .ok () d
  | .error cause => .error cause c

/-- At every cursor in a script the reader does what the parser does on the tokens from the cursor
on: it gives the same answer and leaves the cursor before the tokens that the parser leaves. -/
def Follows (q : Reader α) (p : Parser α) : Prop :=
  ∀ c, c.Inside → Reader.answer (q c) = p c.rest ∧ Passes c (Reader.left (q c))

/-- Answering without reading follows itself. -/
theorem Follows.pure (a : α) : Follows (Pure.pure a) (Pure.pure a) :=
  fun _ h => ⟨rfl, .refl h⟩

/-- Readers in sequence follow parsers in sequence. -/
theorem Follows.bind {q : Reader α} {p : Parser α} {g : α → Reader β} {f : α → Parser β}
    (hq : Follows q p) (hg : ∀ a, Follows (g a) (f a)) : Follows (q >>= g) (p >>= f) := by
  intro c hc
  obtain ⟨hanswer, hpasses⟩ := hq c hc
  cases hqc : q c with
  | ok a d =>
    rw [hqc] at hanswer hpasses
    obtain ⟨hanswer', hpasses'⟩ := hg a d hpasses.inside
    rw [bind_of_ok hqc, bind_of_ok hanswer.symm]
    exact ⟨hanswer', hpasses.trans hpasses'⟩
  | error cause d =>
    rw [hqc] at hanswer hpasses
    rw [bind_of_error hqc, bind_of_error hanswer.symm]
    exact ⟨rfl, hpasses⟩

/-- A choice of readers follows the choice of parsers. -/
theorem Follows.ite {condition : Prop} [Decidable condition] {q q' : Reader α} {p p' : Parser α}
    (h : Follows q p) (h' : Follows q' p') :
    Follows (if condition then q else q') (if condition then p else p') := by
  split <;> assumption

/-- From the start of a script a reader reads what the parser reads off all its tokens. -/
theorem Follows.start {q : Reader α} {p : Parser α} (h : Follows q p) (script : Script) :
    Reader.answer (q (start script)) = p script.tokens :=
  (h (Cursor.start script) (inside_start script)).1

/-! ## The operations of a cursor -/

/-- Passing the token at the cursor if it is as asked follows the parser that takes it. -/
theorem follows_of_accept {f : Token → Bool} {op : Cursor → Bool × Cursor}
    (hop : ∀ c, op c = if c.peek.any f then (true, c.advance) else (false, c)) :
    Follows (.ofAnswer op) (Parser.accept f) := by
  intro c hc
  have hpasses := Passes.advance hc
  have hrest := rest_advance c
  unfold Reader.ofAnswer
  rw [hop, peek]
  cases hts : c.rest with
  | nil => exact ⟨congrArg _ hts, .refl hc⟩
  | cons t ts =>
    rw [hts] at hrest
    rw [List.head?_cons, Option.any_some, Parser.accept]
    split
    · exact ⟨congrArg _ hrest, hpasses⟩
    · exact ⟨congrArg _ hts, .refl hc⟩

/-- Passing the token at the cursor, which must be as asked, follows the parser that takes it. -/
theorem follows_of_require {f : Token → Bool} {wanted : Wanted}
    {op : Cursor → Except SyntaxError Cursor}
    (hop : ∀ c, op c = if c.peek.any f then .ok c.advance
      else .error (.expected wanted (Found.first c.rest))) :
    Follows (.ofResult op) (Parser.require wanted f) := by
  intro c hc
  have hpasses := Passes.advance hc
  have hrest := rest_advance c
  unfold Reader.ofResult
  rw [hop, peek]
  cases hts : c.rest with
  | nil => exact ⟨congrArg _ hts, .refl hc⟩
  | cons t ts =>
    rw [hts] at hrest
    rw [List.head?_cons, Option.any_some, Parser.require]
    cases f t with
    | true => exact ⟨congrArg _ hrest, hpasses⟩
    | false => exact ⟨congrArg _ hts, .refl hc⟩

/-- A token of a kind, and of a value if one is given, is passed as the parser takes it. -/
theorem follows_accept (kind : Token.Kind) (value : Option String) :
    Follows (.ofAnswer (·.accept (some kind) value)) (Parser.accept (·.isOf kind value)) :=
  follows_of_accept fun c => by rw [accept, isAt_some]

/-- A punctuation mark is passed as the parser takes it. -/
theorem follows_acceptMark (mark : String) :
    Follows (.ofAnswer (·.accept (some .punctuation) (some mark))) (Parser.acceptMark mark) := by
  have h := follows_accept .punctuation (some mark)
  simp only [Token.isOf_punctuation] at h
  exact h

/-- One of several bare words is passed as the parser takes it. -/
theorem follows_acceptKeyword (words : List String) :
    Follows (.ofAnswer (·.acceptKeyword words)) (Parser.accept (·.isKeywordOf words)) :=
  follows_of_accept fun _ => rfl

/-- A token that must be of a kind, and of a value if one is given, is passed as the parser takes
it; the failure asks for the value, or else for the kind. -/
theorem follows_expect (kind : Token.Kind) (value : Option String) :
    Follows (.ofResult (·.expect (some kind) value))
      (Parser.require (value.elim (.kind (some kind)) .value) (·.isOf kind value)) :=
  follows_of_require fun c => by
    unfold expect
    rw [isAt_some]
    cases value <;> rfl

/-- A punctuation mark that must come is passed as the parser takes it. -/
theorem follows_expectMark (mark : String) :
    Follows (.ofResult (·.expect (some .punctuation) (some mark))) (Parser.requireMark mark) := by
  have h := follows_expect .punctuation (some mark)
  simp only [Token.isOf_punctuation] at h
  exact h

/-- A bare word that must come is passed as the parser takes it. -/
theorem follows_expectKeyword (word : String) :
    Follows (.ofResult (·.expectKeyword word)) (Parser.requireKeyword word) :=
  follows_of_require fun c => by
    simp only [expectKeyword, isAtKeyword, Token.isKeywordOf_singleton]

/-- Asking for one of several bare words follows the parser that asks and takes nothing. -/
theorem follows_isAtKeyword (words : List String) :
    Follows (.ofAnswer fun c => (c.isAtKeyword words, c))
      (Parser.startsWith (·.isKeywordOf words)) :=
  fun _ h => ⟨rfl, .refl h⟩

/-- The words IF NOT EXISTS are read at a cursor step by step as the parser takes them. -/
theorem follows_ifNotExists :
    Follows (do
      let present ← Reader.ofAnswer (·.acceptKeyword ["IF"])
      if present then
        Reader.ofResult (·.expectKeyword "NOT")
        Reader.ofResult (·.expectKeyword "EXISTS")
      else Pure.pure ()) Statement.ifNotExists := by
  have hif := follows_acceptKeyword ["IF"]
  simp only [Token.isKeywordOf_singleton] at hif
  exact hif.bind fun _ =>
    .ite ((follows_expectKeyword "NOT").bind fun _ => follows_expectKeyword "EXISTS") (.pure ())

/-! ## The parsers that can be followed -/

/-- Two readers that follow one parser do the same. -/
theorem Follows.unique {q q' : Reader α} {p : Parser α} (h : Follows q p) (h' : Follows q' p)
    (hc : c.Inside) : q c = q' c := by
  obtain ⟨hanswer, hpasses⟩ := h c hc
  obtain ⟨hanswer', hpasses'⟩ := h' c hc
  rw [← hanswer'] at hanswer
  have hscript := hpasses.script_eq.trans hpasses'.script_eq.symm
  generalize q c = result at *
  generalize q' c = result' at *
  cases result <;> cases result' <;> try cases hanswer
  all_goals
    injection hanswer with hvalue hrest
    cases hvalue
    exact congrArg _ (eq_of_rest hpasses'.inside hpasses.inside hscript hrest)

/-- The cursor before the tokens `ts`, which are the last ones of the script. -/
def before (c : Cursor) (ts : List Token) : Cursor :=
  { c with position := c.script.tokens.length - ts.length }

/-- Before a tail of what is at the cursor, that tail is what is at the cursor. -/
theorem rest_before {ts : List Token} (h : ts <:+ c.rest) : (c.before ts).rest = ts :=
  (List.suffix_iff_eq_drop.1 (h.trans c.rest_suffix)).symm

/-- Tokens are passed to get before a tail of what is at the cursor. -/
theorem Passes.before {ts : List Token} (hc : c.Inside) (h : ts <:+ c.rest) :
    Passes c (c.before ts) := by
  have hcount := position_add_length_rest hc
  have hlength := h.length_le
  exact ⟨rfl, by unfold Cursor.before; dsimp only; omega, Nat.sub_le _ _⟩

/-- There is a reader that follows a parser exactly when the parser leaves a tail of the tokens that
it is given. -/
theorem exists_follows_iff {p : Parser α} : (∃ q, Follows q p) ↔ p.Shortens := by
  constructor
  · rintro ⟨q, h⟩ ts
    have hanswer := h.start ⟨ts, .start⟩
    have hpasses := (h (start ⟨ts, .start⟩) (inside_start _)).2
    have hsuffix := (Reader.left (q (start ⟨ts, .start⟩))).rest_suffix
    rw [hpasses.script_eq] at hsuffix
    rw [← hanswer, Reader.left_answer]
    exact hsuffix
  · intro h
    refine ⟨fun c => match p c.rest with
      | .ok a ts => .ok a (c.before ts)
      | .error cause ts => .error cause (c.before ts), fun c hc => ?_⟩
    have hleft := h c.rest
    dsimp only
    cases hp : p c.rest with
    | ok a ts =>
      rw [hp] at hleft
      exact ⟨congrArg _ (rest_before hleft), .before hc hleft⟩
    | error cause ts =>
      rw [hp] at hleft
      exact ⟨congrArg _ (rest_before hleft), .before hc hleft⟩

/-- The statements of a script can be read at a cursor. -/
theorem exists_follows_statement : ∃ q, Follows q Statement.statement :=
  exists_follows_iff.2 shortens_statement

end Cursor

end SchemaCanvas.Sql
