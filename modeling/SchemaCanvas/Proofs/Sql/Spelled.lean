import SchemaCanvas.Proofs.Number.Whole
import SchemaCanvas.Proofs.Sql.Quoting
import SchemaCanvas.Proofs.Sql.Semicolon

/-!
# Spelling tokens

A text spells tokens when they are what it is cut into (`Spells`). Tokens are put before a text one
by one. A quoted name has its quotes doubled, and no quote follows it (`Spells.quotedName`); a bare
word or a numeral needs something after it that does not go on with it (`Spells.bareWord`,
`Spells.numeral`); a mark or a blank stands before anything (`Spells.mark`, `Spells.blank`). So the
spelling of a list with commas is put together from those of its items (`Spells.intercalate`).
-/

namespace SchemaCanvas.Sql

/-! ## Tokens as they are written -/

/-- A bare word, wherever it stands. -/
def bareWord (word : String) : Token :=
  ⟨.word, word, .start⟩

/-- A name in double quotes, wherever it stands. -/
def quotedName (name : String) : Token :=
  ⟨.quoted, name, .start⟩

/-- A number, wherever it stands. -/
def numeral (digits : String) : Token :=
  ⟨.number, digits, .start⟩

/-- The text of a name in double quotes, with its own quotes written twice. -/
def quoteName (name : String) : String :=
  String.ofList (Text.quote '"' name.toList)

/-- The words, each with a blank after it. -/
def spaced (words : List String) : String :=
  String.join (words.map (· ++ " "))

/-- Whether a text is a bare word. -/
def isBareWord (text : String) : Bool :=
  match text.toList with
  | [] => false
  | c :: cs => isWordStart c && cs.all isWordPart

/-- Whether a text is made of ASCII digits. -/
def isNumeral (text : String) : Bool :=
  text ≠ "" && text.toList.all Char.isDigit

/-! ## Pieces before a text -/

/-- What holds of the first 128 characters one by one holds of all of them. -/
theorem forall_ascii {P : Char → Prop} (h : ∀ n < 128, P (Char.ofNat n)) {c : Char}
    (hc : c.toNat < 128) : P c := by
  have hc := h c.toNat hc
  rwa [Char.ofNat_toNat] at hc

/-- A word starts with an ASCII character. -/
theorem toNat_lt_of_isWordStart {c : Char} (h : isWordStart c = true) : c.toNat < 128 := by
  rcases Bool.or_eq_true_iff.1 h with halpha | hunderscore
  · rcases Bool.or_eq_true_iff.1 halpha with hupper | hlower
    · have hz : c.val ≤ 'Z'.val := (of_decide_eq_true hupper).2
      exact Nat.lt_of_le_of_lt hz (by decide)
    · have hz : c.val ≤ 'z'.val := of_decide_eq_true (Bool.and_eq_true_iff.1 hlower).2
      exact Nat.lt_of_le_of_lt hz (by decide)
  · obtain rfl := of_decide_eq_true hunderscore
    decide

namespace Lexeme

/-- A character that starts no blank, comment or quoted form. -/
def StartsPlain (c : Char) : Prop :=
  Text.isBlank c = false ∧ c ≠ '-' ∧ c ≠ '/' ∧ c ≠ '"' ∧ c ≠ '\'' ∧ c ≠ '$'

instance (c : Char) : Decidable (StartsPlain c) :=
  inferInstanceAs (Decidable (_ ∧ _))

/-- A character that starts no blank, comment or quoted form starts a number, a word, a mark or an
operator. -/
theorem next_of_startsPlain {c : Char} (h : StartsPlain c) (cs : List Char) :
    next c cs =
      if Text.isDigit c then run .number isNumberPart c cs
      else if isWordStart c then run .word isWordPart c cs
      else if c ∈ punctuationMarks then (⟨.punctuation, [c]⟩, cs)
      else symbol c cs := by
  obtain ⟨hblank, hminus, hslash, hdouble, hsingle, hdollar⟩ := h
  simp only [next, hblank, hminus, hslash, hdouble, hsingle, hdollar, Bool.false_eq_true, false_and,
    if_false]

/-- A character that may start a word starts one. -/
theorem next_of_isWordStart {c : Char} (h : isWordStart c = true) (cs : List Char) :
    next c cs = run .word isWordPart c cs := by
  have hplain : StartsPlain c ∧ Text.isDigit c = false := by
    refine forall_ascii
      (P := fun c => isWordStart c = true → StartsPlain c ∧ Text.isDigit c = false)
      ?_ (toNat_lt_of_isWordStart h) h
    decide +kernel
  rw [next_of_startsPlain hplain.1, if_neg (by simp [hplain.2]), if_pos h]

/-- An ASCII digit starts a number. -/
theorem next_of_isDigit {c : Char} (h : c.isDigit = true) (cs : List Char) :
    next c cs = run .number isNumberPart c cs := by
  have hplain : StartsPlain c ∧ Text.isDigit c = true := by
    have hlt : c.toNat < 128 := Nat.lt_of_le_of_lt (Text.toNat_of_isDigit h).2 (by decide)
    refine forall_ascii (P := fun c => c.isDigit = true → StartsPlain c ∧ Text.isDigit c = true)
      ?_ hlt h
    decide +kernel
  rw [next_of_startsPlain hplain.1, if_pos hplain.2]

/-- A mark is a piece of its own. -/
theorem next_of_mem_punctuationMarks {c : Char} (h : c ∈ punctuationMarks) (cs : List Char) :
    next c cs = (⟨.punctuation, [c]⟩, cs) := by
  have hplain : punctuationMarks.all (fun c => decide
      (StartsPlain c ∧ Text.isDigit c = false ∧ isWordStart c = false)) = true := by decide
  obtain ⟨hstart, hdigit, hword⟩ := of_decide_eq_true (List.all_eq_true.1 hplain c h)
  rw [next_of_startsPlain hstart, if_neg (by simp [hdigit]), if_neg (by simp [hword]), if_pos h]

/-- A piece goes on as far as it can, and no further. -/
theorem run_append {form : Form} {part : Char → Bool} {c : Char} {inside rest : List Char}
    (hinside : ∀ d ∈ inside, part d = true) (hrest : ∀ d ∈ rest.head?, part d = false) :
    run form part c (inside ++ rest) = (⟨form, c :: inside⟩, rest) := by
  rw [run, Text.takeWhile_run hinside hrest, Text.dropWhile_run hinside hrest]

end Lexeme

/-! ## Spelling -/

/-- The text is cut into the tokens, wherever these stand. -/
def Spells (cs : List Char) (ts : List Token) : Prop :=
  (Lexeme.scan cs).filterMap Lexeme.content? = ts.map Token.content

/-- A text that goes on with no word, numeral or quoted name before it. -/
def Apart (cs : List Char) : Prop :=
  ∀ c ∈ cs.head?, isWordPart c = false ∧ isNumberPart c = false ∧ c ≠ '"'

/-- A character that is in no word, numeral or quoted name keeps what follows it apart. -/
theorem apart_cons (c : Char) (h : isWordPart c = false ∧ isNumberPart c = false ∧ c ≠ '"')
    (cs : List Char) : Apart (c :: cs) := by
  intro d hd
  rwa [← Option.some.inj hd]

/-- What is apart starts with no double quote. -/
theorem Apart.head?_ne {cs : List Char} (h : Apart cs) : cs.head? ≠ some '"' :=
  fun hq => (h '"' hq).2.2 rfl

namespace Spells

variable {cs : List Char} {ts : List Token}

/-- No text spells no tokens. -/
theorem nil : Spells [] [] := by
  rw [Spells, Lexeme.scan]
  rfl

/-- A piece with a token, before a text. -/
theorem cons {c : Char} {inside : List Char} {l : Lexeme} {t : Token}
    (hnext : Lexeme.next c inside = (l, cs)) (hl : l.meaning? = some (t.kind, t.value.toList))
    (h : Spells cs ts) : Spells (c :: inside) (t :: ts) := by
  have hcontent : l.content? = some t.content := by
    rw [Lexeme.content?, hl, Option.map_some, String.ofList_toList]
    rfl
  rw [Spells, Lexeme.scan_cons, hnext, List.filterMap_cons_some hcontent, List.map_cons, h]

/-- A blank in front spells nothing. -/
theorem blank {c : Char} (hc : Text.isBlank c = true) (h : Spells cs ts) : Spells (c :: cs) ts :=
  (Lexeme.contents_blank hc cs).trans h

/-- A mark in front spells its token. -/
theorem mark (text : String) (hmark : text.toList ∈ punctuationMarks.map fun c => [c])
    (h : Spells cs ts) : Spells (text.toList ++ cs) (Sql.mark text :: ts) := by
  obtain ⟨c, hc, htext⟩ := List.mem_map.1 hmark
  have hmeaning : (⟨.punctuation, [c]⟩ : Lexeme).meaning? = some (.punctuation, text.toList) := by
    rw [← htext]
    rfl
  rw [← htext]
  exact cons (Lexeme.next_of_mem_punctuationMarks hc cs) hmeaning h

/-- A bare word in front of what is apart from it spells its token. -/
theorem bareWord (word : String) (hw : isBareWord word = true) (ha : Apart cs) (h : Spells cs ts) :
    Spells (word.toList ++ cs) (Sql.bareWord word :: ts) := by
  cases htext : word.toList with
  | nil => simp [isBareWord, htext] at hw
  | cons c inside =>
    simp only [isBareWord, htext, Bool.and_eq_true, List.all_eq_true] at hw
    have hnext : Lexeme.next c (inside ++ cs) = (⟨.word, c :: inside⟩, cs) := by
      rw [Lexeme.next_of_isWordStart hw.1]
      exact Lexeme.run_append hw.2 fun d hd => (ha d hd).1
    have hmeaning : (⟨.word, c :: inside⟩ : Lexeme).meaning? = some (.word, word.toList) := by
      rw [htext]
      rfl
    exact cons hnext hmeaning h

/-- A numeral in front of what is apart from it spells its token. -/
theorem numeral (digits : String) (hd : isNumeral digits = true) (ha : Apart cs)
    (h : Spells cs ts) : Spells (digits.toList ++ cs) (Sql.numeral digits :: ts) := by
  simp only [isNumeral, Bool.and_eq_true, decide_eq_true_eq, List.all_eq_true] at hd
  cases htext : digits.toList with
  | nil => exact absurd (String.toList_eq_nil_iff.1 htext) hd.1
  | cons c inside =>
    rw [htext] at hd
    have hdigits : ∀ d ∈ c :: inside, Text.isDigit d = true := by
      intro d hmem
      rw [Text.isDigit, Text.digitValue?_of_isDigit (hd.2 d hmem)]
      rfl
    have hinside : ∀ d ∈ inside, isNumberPart d = true := fun d hmem => by
      rw [isNumberPart, hdigits d (List.mem_cons_of_mem c hmem), Bool.true_or]
    have hnext : Lexeme.next c (inside ++ cs) = (⟨.number, c :: inside⟩, cs) := by
      rw [Lexeme.next_of_isDigit (hd.2 c List.mem_cons_self)]
      exact Lexeme.run_append hinside fun d hd => (ha d hd).2.1
    have hmeaning : (⟨.number, c :: inside⟩ : Lexeme).meaning? = some (.number, digits.toList) := by
      rw [htext]
      rfl
    exact cons hnext hmeaning h

/-- Any name can be quoted, whatever its characters are. -/
theorem quotedName (name : String) (hq : cs.head? ≠ some '"') (h : Spells cs ts) :
    Spells ((quoteName name).toList ++ cs) (Sql.quotedName name :: ts) := by
  have hnext := Lexeme.Encloses.name.next_quote name.toList cs hq
  rw [quoteName, String.toList_ofList, Lexeme.quote_append]
  exact cons hnext (Lexeme.Encloses.name.meaning?_quote name.toList) h

/-! ## Several tokens -/

/-- Bare words, each before a blank. -/
theorem spaced (words : List String) (hwords : ∀ word ∈ words, isBareWord word = true)
    (h : Spells cs ts) :
    Spells ((Sql.spaced words).toList ++ cs) (words.map Sql.bareWord ++ ts) := by
  induction words with
  | nil => exact h
  | cons word words ih =>
    have hmore := ih fun w hw => hwords w (List.mem_cons_of_mem word hw)
    have htext : (Sql.spaced (word :: words)).toList ++ cs
        = word.toList ++ ' ' :: ((Sql.spaced words).toList ++ cs) := by
      simp [Sql.spaced, String.toList_join]
    rw [htext, List.map_cons, List.cons_append]
    exact bareWord word (hwords word List.mem_cons_self) (apart_cons ' ' (by decide) _)
      (blank (by decide) hmore)

/-- Items of one token each, with something between them that spells one token. -/
theorem intercalate {α : Type} (text : α → String) (token : α → Token) (between : String)
    {separator : Token} (hapart : ∀ cs, Apart (between.toList ++ cs))
    (hbetween : ∀ {cs ts}, Spells cs ts → Spells (between.toList ++ cs) (separator :: ts))
    {as : List α} (hitem : ∀ a ∈ as, ∀ {cs ts}, Apart cs → Spells cs ts →
      Spells ((text a).toList ++ cs) (token a :: ts))
    (ha : Apart cs) (h : Spells cs ts) :
    Spells ((between.intercalate (as.map text)).toList ++ cs)
      ((as.map token).intersperse separator ++ ts) := by
  induction as with
  | nil => exact h
  | cons a as ih =>
    have hmore := ih fun b hb => hitem b (List.mem_cons_of_mem a hb)
    have hfirst := @hitem a List.mem_cons_self
    cases as with
    | nil => simpa using hfirst ha h
    | cons b as =>
      have hboth := hfirst (hapart _) (hbetween hmore)
      simpa [String.toList_intercalate, List.intercalate_cons_cons] using hboth

end Spells

end SchemaCanvas.Sql
