import SchemaCanvas.Proofs.Text.Cut
import SchemaCanvas.Sql.Token

/-!
# Comments can be exchanged

What the pieces of a script are before a comment does not depend on what stands after the slash that
opens the comment, although several kinds of pieces may run to the end of the script: a piece that
stops before the slash stops there in every script that goes on differently
(`Lexeme.settledBySlash_next`), and so does a list of pieces (`Lexeme.scan_slash`). A comment is one
piece and the scan after it starts afresh (`Lexeme.scan_comment`). No comment has a token, so one
may stand for another without a change of the tokens but for their places.
-/

namespace SchemaCanvas.Sql

/-! ## Tokens without their places -/

/-- What a token says, without its place. -/
def Token.content (t : Token) : Token.Kind × String :=
  (t.kind, t.value)

/-- What the token of a lexeme says, if the lexeme has a token. -/
def Lexeme.content? (l : Lexeme) : Option (Token.Kind × String) :=
  l.meaning?.map fun meaning => (meaning.1, String.ofList meaning.2)

/-- What the tokens of lexemes say does not depend on where the script starts. -/
theorem Script.contents_ofLexemes (place : Place) (ls : List Lexeme) :
    (Script.ofLexemes place ls).tokens.map Token.content = ls.filterMap Lexeme.content? := by
  induction ls generalizing place with
  | nil => rfl
  | cons l ls ih =>
    have hl : (l.token? place).map Token.content = l.content? := by
      rw [Lexeme.token?, Lexeme.content?, Option.map_map]
      rfl
    rw [Script.ofLexemes, List.map_append, ih, List.filterMap_cons]
    cases ht : l.token? place with
    | none => rw [ht] at hl; rw [← hl]; rfl
    | some t => rw [ht] at hl; rw [← hl]; rfl

/-- What the tokens of a text say. -/
theorem Script.contents_ofText (text : String) :
    (Script.ofText text).tokens.map Token.content
      = (Lexeme.scan text.toList).filterMap Lexeme.content? :=
  Script.contents_ofLexemes ..

namespace Lexeme

/-! ## Pieces before a slash -/

/-- A way to take a piece off a text is settled by a slash: when it stops before a slash, it takes
the same piece whatever follows the slash. -/
def SettledBySlash (take : List Char → Lexeme × List Char) : Prop :=
  ∀ l u v w w', take (u ++ '/' :: w) = (l, v ++ '/' :: w) →
    take (u ++ '/' :: w') = (l, v ++ '/' :: w')

/-- Taking a piece that is fixed leaves the text, whatever it is. -/
theorem settledBySlash_fixed (l : Lexeme) : SettledBySlash fun cs => (l, cs) := by
  intro l' u v w w' h
  obtain ⟨rfl, hu⟩ := Prod.mk.inj h
  rw [List.append_cancel_right hu]

/-- Taking a run of characters is settled by a slash that is none of them. -/
theorem settledBySlash_run (form : Form) (part : Char → Bool) (c : Char) :
    SettledBySlash (run form part c) := by
  intro l u v w w' h
  obtain ⟨rfl, hd⟩ := Prod.mk.inj h
  obtain ⟨hd', ht⟩ := Text.dropWhile_tail hd w'
  rw [run, hd', ht]

/-- Taking a piece up to a mark is settled by a slash behind the mark. -/
theorem settledBySlash_upTo (form : Form) (opening : List Char) {mark : List Char}
    (hm : mark ≠ []) :
    SettledBySlash (upTo form opening mark) := by
  intro l u v w w' h
  unfold upTo at h ⊢
  cases hf : Text.findMark mark (u ++ '/' :: w) with
  | none =>
    rw [hf] at h
    exact absurd (Prod.mk.inj h).2 (by simp)
  | some cut =>
    obtain ⟨inside, rest⟩ := cut
    rw [hf] at h
    obtain ⟨rfl, rfl⟩ := Prod.mk.inj h
    rw [Text.findMark_tail hm hf]

/-- Taking a quoted form is settled by a slash behind its closing quote. -/
theorem settledBySlash_quoted (form : Form) (q : Char) : SettledBySlash (quoted form q) := by
  intro l u v w w' h
  unfold quoted at h ⊢
  cases hf : Text.closeQuote q (u ++ '/' :: w) with
  | none =>
    rw [hf] at h
    exact absurd (Prod.mk.inj h).2 (by simp)
  | some cut =>
    obtain ⟨inside, rest⟩ := cut
    rw [hf] at h
    obtain ⟨rfl, rfl⟩ := Prod.mk.inj h
    rw [Text.closeQuote_tail hf]

/-- A slash is in no tag, so the tag is the same before every tail. -/
theorem dropWhile_isWordStart_slash (u w : List Char) :
    (u ++ '/' :: w).dropWhile isWordStart = u.dropWhile isWordStart ++ '/' :: w ∧
      (u ++ '/' :: w).takeWhile isWordStart = u.takeWhile isWordStart := by
  have hslash : isWordStart '/' = false := by decide
  induction u with
  | nil => simp [hslash]
  | cons c u ih =>
    by_cases hc : isWordStart c = true
    · simp [hc, ih]
    · simp [hc]

/-- Taking a string in dollar signs is settled by a slash behind its closing tag. -/
theorem settledBySlash_dollar : SettledBySlash dollar := by
  intro l u v w w' h
  obtain ⟨hd, ht⟩ := dropWhile_isWordStart_slash u w
  obtain ⟨hd', ht'⟩ := dropWhile_isWordStart_slash u w'
  unfold dollar at h ⊢
  rw [hd, ht] at h
  rw [hd', ht']
  cases hu : u.dropWhile isWordStart with
  | nil =>
    rw [hu] at h
    exact settledBySlash_fixed ⟨.stray, ['$']⟩ l u v w w' h
  | cons d body =>
    rw [hu, List.cons_append] at h
    rw [List.cons_append]
    by_cases hd : d = '$'
    · subst hd
      exact settledBySlash_upTo _ _ (by simp) l body v w w' h
    · split at h
      · next he => exact absurd (List.cons.inj he).1 hd
      · split
        · next he => exact absurd (List.cons.inj he).1 hd
        · exact settledBySlash_fixed ⟨.stray, ['$']⟩ l u v w w' h

/-- No operator of two characters ends in a slash, so a slash that follows is not looked at. -/
theorem settledBySlash_symbol (c : Char) : SettledBySlash (symbol c) := by
  intro l u v w w' h
  have single : ∀ u, (if c ∈ singleOperators then ((⟨.operator, [c]⟩ : Lexeme), u ++ '/' :: w)
      else (⟨.stray, [c]⟩, u ++ '/' :: w)) = (l, v ++ '/' :: w) →
      (if c ∈ singleOperators then ((⟨.operator, [c]⟩ : Lexeme), u ++ '/' :: w')
        else (⟨.stray, [c]⟩, u ++ '/' :: w')) = (l, v ++ '/' :: w') := by
    intro u h
    by_cases hc : c ∈ singleOperators
    · rw [if_pos hc] at h ⊢
      exact settledBySlash_fixed ⟨.operator, [c]⟩ l u v w w' h
    · rw [if_neg hc] at h ⊢
      exact settledBySlash_fixed ⟨.stray, [c]⟩ l u v w w' h
  cases u with
  | nil =>
    have hpair : (c, '/') ∉ pairedOperators := by simp [pairedOperators]
    simp only [symbol, List.nil_append, if_neg hpair] at h ⊢
    exact single [] h
  | cons d u =>
    simp only [symbol, List.cons_append] at h ⊢
    by_cases hpair : (c, d) ∈ pairedOperators
    · rw [if_pos hpair] at h ⊢
      exact settledBySlash_fixed ⟨.operator, [c, d]⟩ l u v w w' h
    · rw [if_neg hpair] at h ⊢
      exact single (d :: u) h

/-- A choice by the first character of the text is the same before every tail. -/
theorem SettledBySlash.ite {P : Option Char → Prop} [DecidablePred P]
    {f g : List Char → Lexeme × List Char} (hf : SettledBySlash f) (hg : SettledBySlash g) :
    SettledBySlash fun cs => if P cs.head? then f cs else g cs := by
  intro l u v w w' h
  have hhead : (u ++ '/' :: w').head? = (u ++ '/' :: w).head? := by cases u <;> rfl
  dsimp only at h ⊢
  rw [hhead]
  by_cases hp : P (u ++ '/' :: w).head?
  · rw [if_pos hp] at h ⊢
    exact hf l u v w w' h
  · rw [if_neg hp] at h ⊢
    exact hg l u v w w' h

/-- What follows a comment's star is searched for the end of the comment; the slash that settles the
piece cannot be the one before the star. -/
theorem settledBySlash_upTo_tail (form : Form) (opening : List Char) {mark : List Char}
    (hm : mark ≠ []) : SettledBySlash fun cs => upTo form opening mark cs.tail := by
  intro l u v w w' h
  cases u with
  | cons d u => exact settledBySlash_upTo form opening hm l u v w w' h
  | nil =>
    have hrest : (upTo form opening mark w).2 = v ++ '/' :: w := congrArg Prod.snd h
    unfold upTo at hrest
    split at hrest
    · next inside rest hf =>
      have hl := congrArg List.length (Text.findMark_eq_some hf)
      have hr := congrArg List.length hrest
      simp only [List.length_append, List.length_cons] at hl hr
      omega
    · exact absurd hrest (by simp)

/-- The first piece of a text is settled by a slash after it. -/
theorem settledBySlash_next (c : Char) : SettledBySlash (next c) :=
  .ite (P := fun _ => Text.isBlank c = true) (settledBySlash_run _ _ _) <|
  .ite (P := fun d => c = '-' ∧ d = some '-') (settledBySlash_run _ _ _) <|
  .ite (P := fun d => c = '/' ∧ d = some '*') (settledBySlash_upTo_tail _ _ (by simp)) <|
  .ite (P := fun _ => c = '"') (settledBySlash_quoted _ _) <|
  .ite (P := fun _ => c = '\'') (settledBySlash_quoted _ _) <|
  .ite (P := fun _ => c = '$') settledBySlash_dollar <|
  .ite (P := fun _ => Text.isDigit c = true) (settledBySlash_run _ _ _) <|
  .ite (P := fun _ => isWordStart c = true) (settledBySlash_run _ _ _) <|
  .ite (P := fun _ => c ∈ punctuationMarks) (settledBySlash_fixed _) <|
  settledBySlash_symbol c

/-! ## Scripts around a comment -/

/-- A whole comment: the mark that closes it is complete at its end and not before. -/
def IsComment (cs : List Char) : Prop :=
  ∃ inside, cs = '/' :: '*' :: (inside ++ ['*', '/']) ∧ ¬ ['*', '/'] <:+: inside ++ ['*']

/-- A script is cut into its first piece and the pieces of what is left. -/
theorem scan_cons (c : Char) (cs : List Char) :
    scan (c :: cs) = (next c cs).1 :: scan (next c cs).2 := by
  rw [scan]

/-- The pieces before a slash are the same whatever follows the slash. -/
theorem scan_slash {ls ms : List Lexeme} {u w : List Char} (h : scan (u ++ '/' :: w) = ls ++ ms)
    (hu : ls.flatMap text = u) (w' : List Char) :
    scan (u ++ '/' :: w') = ls ++ scan ('/' :: w') := by
  induction ls generalizing u with
  | nil => subst hu; rfl
  | cons l ls ih =>
    rw [List.flatMap_cons] at hu
    cases u with
    | nil =>
      exfalso
      rw [List.nil_append, scan_cons, List.cons_append, List.cons.injEq] at h
      exact text_next_ne_nil '/' w (h.1 ▸ (List.append_eq_nil_iff.1 hu).1)
    | cons c u =>
      rw [List.cons_append, scan_cons, List.cons_append, List.cons.injEq] at h
      obtain ⟨rfl, h⟩ := h
      have htext := text_next_append c (u ++ '/' :: w)
      rw [← List.cons_append, ← hu, List.append_assoc] at htext
      have hrest := List.append_cancel_left htext
      have hnext := settledBySlash_next c _ u _ w w' (Prod.ext rfl hrest)
      rw [hrest] at h
      rw [List.cons_append, scan_cons, hnext, ih h rfl]
      rfl

/-- A comment is one piece, and the script goes on after it as if it started there. -/
theorem scan_comment {comment : List Char} (h : IsComment comment) (rest : List Char) :
    scan (comment ++ rest) = ⟨.blockComment, comment⟩ :: scan rest := by
  obtain ⟨inside, rfl, hn⟩ := h
  have hf : Text.findMark ['*', '/'] (inside ++ '*' :: '/' :: rest) = some (inside, rest) :=
    (Text.findMark_eq_some_iff (by simp)).2 ⟨by simp, hn⟩
  have hnext : next '/' ('*' :: (inside ++ '*' :: '/' :: rest))
      = (⟨.blockComment, '/' :: '*' :: (inside ++ ['*', '/'])⟩, rest) := by
    have hb : Text.isBlank '/' = false := by decide
    simp [next, hb, upTo, hf]
  rw [List.cons_append, List.cons_append, List.append_assoc, scan_cons]
  change _ :: scan (next '/' ('*' :: (inside ++ '*' :: '/' :: rest))).2 = _
  rw [List.cons_append, List.cons_append, List.nil_append, hnext]

/-- Blanks at the start of a script have no token. -/
theorem contents_blank {c : Char} (hc : Text.isBlank c = true) (cs : List Char) :
    (scan (c :: cs)).filterMap content? = (scan cs).filterMap content? := by
  have hnext : ∀ c cs, Text.isBlank c = true → (scan (c :: cs)).filterMap content?
      = (scan (cs.dropWhile Text.isBlank)).filterMap content? := by
    intro c cs hc
    rw [scan_cons, next, if_pos hc]
    rfl
  rw [hnext c cs hc]
  cases cs with
  | nil => rfl
  | cons d cs =>
    by_cases hd : Text.isBlank d = true
    · rw [List.dropWhile_cons_of_pos hd, hnext d cs hd]
    · rw [List.dropWhile_cons_of_neg hd]

end Lexeme

end SchemaCanvas.Sql
