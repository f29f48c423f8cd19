import Mathlib.Data.List.TakeWhile
import SchemaCanvas.Proofs.Sql.Pieces
import SchemaCanvas.Text.Lines

/-!
# Tokens tile the text

A text is made up of consecutive pieces. `Lexeme.Skipped` says which pieces have no token, and
`Token.Kind.Looks` what the piece of a token of each kind looks like. Every other piece has one
token, which stands where the piece starts and has the piece as its value unless it is written in
single or double quotes (`Token.Stands`). The running count of lines and columns is the place that
can be read off the text before (`Place.after_behind`), so tokens know where they are
(`Script.tiles_ofText`).
-/

namespace SchemaCanvas.Sql

/-! ## Places -/

/-- The place behind a text: one line for each line feed, and a column for each character after the
last line feed. -/
def Place.behind (text : List Char) : Place :=
  ⟨Text.lineFeeds text + 1, (text.reverse.takeWhile (· ≠ '\n')).length + 1⟩

/-- One character more moves the place behind a text as it moves a place. -/
theorem Place.next_behind (text : List Char) (c : Char) :
    (Place.behind text).next c = .behind (text ++ [c]) := by
  by_cases hc : c = '\n'
  · simp [Place.next, Place.behind, Text.lineFeeds, hc]
  · simp [Place.next, Place.behind, Text.lineFeeds, hc]

/-- The place behind two texts is the place behind the first one, moved by the second. -/
theorem Place.after_behind (before text : List Char) :
    (Place.behind before).after text = .behind (before ++ text) := by
  induction text generalizing before with
  | nil => rw [List.append_nil, Place.after, List.foldl_nil]
  | cons c text ih =>
    have hstep : (Place.behind before).after (c :: text)
        = ((Place.behind before).next c).after text := rfl
    rw [hstep, Place.next_behind, ih, List.append_assoc, List.singleton_append]

/-! ## Pieces -/

/-- A character that is no blank, opens no quoted form, and is in no number, word or operator. -/
def Lexeme.IsUnknown (c : Char) : Prop :=
  Text.isBlank c = false ∧ c ≠ '"' ∧ c ≠ '\'' ∧ Text.isDigit c = false ∧ isWordStart c = false ∧
    c ∉ punctuationMarks ∧ c ∉ singleOperators

instance (c : Char) : Decidable (Lexeme.IsUnknown c) :=
  inferInstanceAs (Decidable (_ ∧ _))

/-- The pieces without a token: blanks, comments and single unknown characters. -/
inductive Lexeme.Skipped : List Char → Prop
  | blank {piece : List Char} (hne : piece ≠ []) (h : ∀ c ∈ piece, Text.isBlank c = true) :
    Skipped piece
  | lineComment {inside : List Char} (h : '\n' ∉ inside) : Skipped ('-' :: '-' :: inside)
  /-- The mark that closes a block comment is complete at its end at the earliest. -/
  | blockComment {inside : List Char} (h : ¬ ['*', '/'] <:+: inside.dropLast) :
    Skipped ('/' :: '*' :: inside)
  | unknown {c : Char} (h : IsUnknown c) : Skipped [c]

/-- What the piece of a token of each kind looks like. -/
inductive Token.Kind.Looks : Token.Kind → List Char → Prop
  | word {c : Char} {cs : List Char} (hc : isWordStart c = true)
    (hcs : ∀ d ∈ cs, isWordPart d = true) : Looks .word (c :: cs)
  | quoted (cs : List Char) : Looks .quoted ('"' :: cs)
  | number {c : Char} {cs : List Char} (hc : Text.isDigit c = true)
    (hcs : ∀ d ∈ cs, isNumberPart d = true) : Looks .number (c :: cs)
  | string (cs : List Char) : Looks .string ('\'' :: cs)
  | dollarString {tag : List Char} (h : ∀ d ∈ tag, isWordStart d = true) (cs : List Char) :
    Looks .string ('$' :: tag ++ '$' :: cs)
  | punctuation {c : Char} (h : c ∈ punctuationMarks) : Looks .punctuation [c]
  | single {c : Char} (h : c ∈ singleOperators) : Looks .operator [c]
  | paired {c d : Char} (h : (c, d) ∈ pairedOperators) : Looks .operator [c, d]

/-- What a piece says that is not written in single or double quotes is the piece itself. -/
def Token.Kind.Tells (kind : Token.Kind) (piece value : List Char) : Prop :=
  kind ≠ .quoted → ¬ (kind = .string ∧ piece.head? = some '\'') → value = piece

/-- The token is that of a piece with a text before it. -/
structure Token.Stands (t : Token) (before piece : List Char) : Prop where
  place : t.place = .behind before
  looks : t.kind.Looks piece
  tells : t.kind.Tells piece t.value.toList

/-- The tokens are those of consecutive pieces, one for each piece that is not skipped. -/
inductive Script.Tiles : (before : List Char) → List (List Char) → List Token → Prop
  | nil (before : List Char) : Tiles before [] []
  | skipped {before piece : List Char} {pieces : List (List Char)} {ts : List Token}
    (h : Lexeme.Skipped piece) (hmore : Tiles (before ++ piece) pieces ts) :
    Tiles before (piece :: pieces) ts
  | token {before piece : List Char} {pieces : List (List Char)} {t : Token} {ts : List Token}
    (h : ¬ Lexeme.Skipped piece) (ht : t.Stands before piece)
    (hmore : Tiles (before ++ piece) pieces ts) : Tiles before (piece :: pieces) (t :: ts)

/-! ## The first piece of a text -/

namespace Lexeme

/-- What a piece looks like that has no token, or a token of a kind and value. -/
inductive Told (piece : List Char) : Option (Token.Kind × List Char) → Prop
  | skipped (h : Skipped piece) : Told piece none
  | token {kind : Token.Kind} {value : List Char} (hl : kind.Looks piece)
    (ht : kind.Tells piece value) : Told piece (some (kind, value))

/-- A block comment has no token, and it is one of the pieces that may have none. -/
theorem told_blockComment (inside : List Char) :
    Told (upTo .blockComment ['/', '*'] ['*', '/'] inside).1.text
      (upTo .blockComment ['/', '*'] ['*', '/'] inside).1.meaning? := by
  unfold upTo
  split
  · next cut rest h =>
    obtain ⟨-, hn⟩ := (Text.findMark_eq_some_iff (by simp)).1 h
    refine .skipped (.blockComment ?_)
    simpa [List.dropLast_append_cons] using hn
  · next h =>
    have hn := (Text.findMark_eq_none (by simp)).1 h
    exact .skipped (.blockComment fun hi => hn (hi.trans (List.dropLast_prefix inside).isInfix))

/-- A quoted form starts with its quote. -/
theorem exists_text_quoted (form : Form) (q : Char) (cs : List Char) :
    ∃ inside, (quoted form q cs).1 = ⟨form, q :: inside⟩ := by
  unfold quoted
  split
  · exact ⟨_, rfl⟩
  · exact ⟨_, rfl⟩

/-- A name in double quotes has a token of its kind, and looks like one. -/
theorem told_quotedName (cs : List Char) :
    Told (quoted .quotedName '"' cs).1.text (quoted .quotedName '"' cs).1.meaning? := by
  obtain ⟨inside, h⟩ := exists_text_quoted .quotedName '"' cs
  rw [h]
  exact .token (.quoted inside) fun hkind => absurd rfl hkind

/-- A string in single quotes has a token of its kind, and looks like one. -/
theorem told_quotedString (cs : List Char) :
    Told (quoted .quotedString '\'' cs).1.text (quoted .quotedString '\'' cs).1.meaning? := by
  obtain ⟨inside, h⟩ := exists_text_quoted .quotedString '\'' cs
  rw [h]
  exact .token (.string inside) fun _ hstring => absurd ⟨rfl, rfl⟩ hstring

/-- A piece that goes up to a mark starts with its opening. -/
theorem exists_text_upTo (form : Form) (opening mark cs : List Char) :
    ∃ inside, (upTo form opening mark cs).1 = ⟨form, opening ++ inside⟩ := by
  unfold upTo
  split
  · exact ⟨_, by rw [List.append_assoc]⟩
  · exact ⟨_, rfl⟩

/-- What starts with a dollar sign is a string, or a single character without a token. -/
theorem told_dollar (cs : List Char) : Told (dollar cs).1.text (dollar cs).1.meaning? := by
  unfold dollar
  split
  · next body _ =>
    obtain ⟨inside, h⟩ := exists_text_upTo .dollarString
      ('$' :: cs.takeWhile isWordStart ++ ['$']) ('$' :: cs.takeWhile isWordStart ++ ['$']) body
    rw [h, List.append_assoc]
    exact .token (.dollarString (fun d => List.mem_takeWhile_imp) inside) fun _ _ => rfl
  · exact .skipped (.unknown (by decide))

/-- A piece of one or two characters is an operator, or an unknown character without a token. -/
theorem told_symbol {c : Char} (h : c ∉ singleOperators → IsUnknown c) (cs : List Char) :
    Told (symbol c cs).1.text (symbol c cs).1.meaning? := by
  unfold symbol
  split
  · split
    · next hpair => exact .token (.paired hpair) fun _ _ => rfl
    split
    · next hsingle => exact .token (.single hsingle) fun _ _ => rfl
    · next hsingle => exact .skipped (.unknown (h hsingle))
  · split
    · next hsingle => exact .token (.single hsingle) fun _ _ => rfl
    · next hsingle => exact .skipped (.unknown (h hsingle))

/-- What the first piece of a text looks like, and what it says. -/
theorem told_next (c : Char) (cs : List Char) :
    Told (next c cs).1.text (next c cs).1.meaning? := by
  unfold next
  split
  · next hblank =>
    refine .skipped (.blank (by simp [run]) fun d hd => ?_)
    rcases List.mem_cons.1 hd with rfl | hd
    · exact hblank
    · exact List.mem_takeWhile_imp hd
  next hblank =>
  split
  · next hline =>
    obtain ⟨rest, rfl⟩ := List.head?_eq_some_iff.1 hline.2
    have hinside : '\n' ∉ rest.takeWhile (· ≠ '\n') := fun hd => by
      simpa using List.mem_takeWhile_imp hd
    rw [hline.1]
    exact .skipped (.lineComment hinside)
  split
  · exact told_blockComment cs.tail
  split
  · exact told_quotedName cs
  next hdouble =>
  split
  · exact told_quotedString cs
  next hsingle =>
  split
  · exact told_dollar cs
  split
  · next hdigit => exact .token (.number hdigit fun d => List.mem_takeWhile_imp) fun _ _ => rfl
  next hdigit =>
  split
  · next hword => exact .token (.word hword fun d => List.mem_takeWhile_imp) fun _ _ => rfl
  next hword =>
  split
  · next hmark => exact .token (.punctuation hmark) fun _ _ => rfl
  next hmark =>
  refine told_symbol (fun hoperator => ?_) cs
  simp only [Bool.not_eq_true] at hblank hdigit hword
  exact ⟨hblank, hdouble, hsingle, hdigit, hword, hmark, hoperator⟩

/-- The first piece starts with the first character and goes on with those that follow. -/
theorem exists_text_next (c : Char) (cs : List Char) :
    ∃ inside, (next c cs).1.text = c :: inside ∧ inside <+: cs := by
  have happend := text_next_append c cs
  cases htext : (next c cs).1.text with
  | nil => exact absurd htext (text_next_ne_nil c cs)
  | cons d inside =>
    rw [htext, List.cons_append] at happend
    obtain ⟨rfl, hrest⟩ := List.cons.inj happend
    exact ⟨inside, rfl, _, hrest⟩

/-- The piece of a token of any kind is no unknown character. -/
theorem not_isUnknown_of_looks {kind : Token.Kind} {c : Char} (h : kind.Looks [c]) :
    ¬ IsUnknown c := by
  rintro ⟨-, hdouble, hsingle, hdigit, hword, hmark, hoperator⟩
  generalize hpiece : [c] = piece at h
  cases h with
  | word hc =>
    obtain ⟨rfl, -⟩ := List.cons.inj hpiece
    exact Bool.false_ne_true (hword.symm.trans hc)
  | quoted => exact hdouble (List.cons.inj hpiece).1
  | number hc =>
    obtain ⟨rfl, -⟩ := List.cons.inj hpiece
    exact Bool.false_ne_true (hdigit.symm.trans hc)
  | string => exact hsingle (List.cons.inj hpiece).1
  | dollarString => simp at hpiece
  | punctuation hc => exact hmark (List.singleton_inj.1 hpiece ▸ hc)
  | single hc => exact hoperator (List.singleton_inj.1 hpiece ▸ hc)
  | paired => simp at hpiece

/-- A piece with a token is not one of those that are skipped. -/
theorem not_skipped_next {c : Char} {cs : List Char} (h : (next c cs).1.IsToken) :
    ¬ Skipped (next c cs).1.text := by
  obtain ⟨inside, htext, hprefix⟩ := exists_text_next c cs
  have hblank : ¬ Text.isBlank c = true := by
    intro hblank
    rw [next, if_pos hblank] at h
    cases h
  have hline : ¬ (c = '-' ∧ cs.head? = some '-') := by
    intro hline
    rw [next, if_neg hblank, if_pos hline] at h
    cases h
  have hblock : ¬ (c = '/' ∧ cs.head? = some '*') := by
    intro hblock
    rw [next, if_neg hblank, if_neg hline, if_pos hblock, IsToken, meaning?, form_upTo] at h
    cases h
  have hhead : ∀ d rest, inside = d :: rest → cs.head? = some d := by
    rintro d rest rfl
    obtain ⟨more, rfl⟩ := hprefix
    rfl
  intro hskipped
  generalize hpiece : (next c cs).1.text = piece at hskipped
  rw [htext] at hpiece
  cases hskipped with
  | blank hne hall =>
    exact hblank (hall c (hpiece ▸ List.mem_cons_self))
  | lineComment hin =>
    obtain ⟨rfl, hrest⟩ := List.cons.inj hpiece
    exact hline ⟨rfl, hhead _ _ hrest⟩
  | blockComment hin =>
    obtain ⟨rfl, hrest⟩ := List.cons.inj hpiece
    exact hblock ⟨rfl, hhead _ _ hrest⟩
  | unknown hunknown =>
    have htold := told_next c cs
    rw [htext, hpiece] at htold
    unfold IsToken at h
    generalize (next c cs).1.meaning? = meaning at h htold
    cases htold with
    | skipped => cases h
    | token hl => exact not_isUnknown_of_looks hl hunknown

/-- The first piece of what follows a text is skipped, or has a token that stands there. -/
theorem skipped_or_stands_next (before : List Char) (c : Char) (cs : List Char) :
    ((next c cs).1.token? (.behind before) = none ∧ Skipped (next c cs).1.text) ∨
      ∃ t, (next c cs).1.token? (.behind before) = some t ∧ ¬ Skipped (next c cs).1.text ∧
        t.Stands before (next c cs).1.text := by
  have htold := told_next c cs
  cases hmeaning : (next c cs).1.meaning? with
  | none =>
    rw [hmeaning] at htold
    cases htold with
    | skipped hskipped => exact .inl ⟨by rw [token?, hmeaning, Option.map_none], hskipped⟩
  | some meaning =>
    have htoken : (next c cs).1.IsToken := by rw [IsToken, hmeaning, Option.isSome_some]
    rw [hmeaning] at htold
    cases htold with
    | token hlooks htells =>
      refine .inr ⟨_, by rw [token?, hmeaning, Option.map_some], not_skipped_next htoken, ?_⟩
      exact ⟨rfl, hlooks, by rwa [String.toList_ofList]⟩

/-- No piece of a script is empty. -/
theorem nil_not_mem_text_scan (cs : List Char) : [] ∉ (scan cs).map text := by
  fun_induction scan cs with
  | case1 => exact List.not_mem_nil
  | case2 c cs ih =>
    rw [List.map_cons, List.mem_cons, not_or]
    exact ⟨(text_next_ne_nil c cs).symm, ih⟩

end Lexeme

/-! ## All pieces of a text -/

namespace Script

/-- The pieces of what follows a text are tiled by their tokens, and end where it ends. -/
theorem tiles_scan (before cs : List Char) :
    Tiles before ((Lexeme.scan cs).map Lexeme.text)
        (ofLexemes (.behind before) (Lexeme.scan cs)).tokens ∧
      (ofLexemes (.behind before) (Lexeme.scan cs)).stop = .behind (before ++ cs) := by
  fun_induction Lexeme.scan cs generalizing before with
  | case1 => exact ⟨.nil before, by rw [ofLexemes, List.append_nil]⟩
  | case2 c cs ih =>
    obtain ⟨hmore, hstop⟩ := ih (before ++ (Lexeme.next c cs).1.text)
    rw [List.append_assoc, Lexeme.text_next_append] at hstop
    rw [List.map_cons, ofLexemes, Place.after_behind]
    refine ⟨?_, hstop⟩
    obtain ⟨hnone, hskipped⟩ | ⟨t, hsome, hskipped, ht⟩ :=
      Lexeme.skipped_or_stands_next before c cs
    · rw [hnone]
      exact .skipped hskipped hmore
    · rw [hsome]
      exact .token hskipped ht hmore

/-- A text is made up of consecutive pieces with at least one character each, of which those that
are not skipped have one token each, in order; a token stands where its piece starts, and the script
ends where the text ends. -/
theorem tiles_ofText (text : String) :
    ∃ pieces : List (List Char), pieces.flatten = text.toList ∧ [] ∉ pieces ∧
      Tiles [] pieces (ofText text).tokens ∧ (ofText text).stop = .behind text.toList := by
  obtain ⟨htiles, hstop⟩ := tiles_scan [] text.toList
  refine ⟨_, ?_, ?_, htiles, hstop⟩
  · rw [← List.flatMap_def, Lexeme.flatMap_text_scan]
  · exact Lexeme.nil_not_mem_text_scan text.toList

example : (ofText "a /*\n*/ \"b\nc\" $t$\n\n$t$ #\n 'd").tokens.map Token.place
    = [⟨1, 1⟩, ⟨2, 4⟩, ⟨3, 4⟩, ⟨6, 2⟩] := by decide +kernel

end Script

end SchemaCanvas.Sql
