import Mathlib.Data.List.Forall2
import SchemaCanvas.Proofs.Sql.Steps

/-!
# What parsers see of a token

A parser sees the kind of a token, its value, and of a bare word only what remains of it in capitals
and in small letters (`Token.Alike`); it never sees where the token stands. A `Likeness` is a
relation of tokens that no parser tells apart, together with the relation in which the causes of
failures then stand. On related tokens every parser gives related answers and leaves related tokens
(`Likeness.Parsers`), so that whole scripts are read alike (`Likeness.collect_alike`).
-/

namespace SchemaCanvas.Sql

open SchemaCanvas.Sql.Parser SchemaCanvas.Sql.Statement

/-- Two tokens that no parser tells apart. -/
structure Token.Alike (t u : Token) : Prop where
  kind : t.kind = u.kind
  keyword : t.keyword? = u.keyword?
  text : typeText t = typeText u

namespace Token.Alike

variable {t u : Token}

/-- Alike tokens are the same mark, or none. -/
theorem isMark (h : t.Alike u) (mark : String) : t.isMark mark = u.isMark mark := by
  by_cases hk : t.kind = .punctuation
  · have hv : t.value = u.value := by
      have htext := h.text
      rwa [typeText, typeText, ← h.kind, hk] at htext
    rw [Token.isMark, Token.isMark, h.kind, hv]
  · rw [Token.isMark, Token.isMark, ← h.kind, decide_eq_false hk]
    rfl

/-- Alike tokens are the same bare word in capitals, or none. -/
theorem isKeyword (h : t.Alike u) (word : String) : t.isKeyword word = u.isKeyword word := by
  rw [Token.isKeyword, Token.isKeyword, h.keyword]

/-- Of a list of bare words both of two alike tokens are one, or none of them is. -/
theorem isKeywordOf (h : t.Alike u) (words : List String) :
    t.isKeywordOf words = u.isKeywordOf words := by
  rw [Token.isKeywordOf, Token.isKeywordOf, h.keyword]

/-- Alike tokens write the same name, or none. -/
theorem identifier? (h : t.Alike u) : t.identifier? = u.identifier? := by
  have htext := h.text
  rw [typeText, typeText, ← h.kind] at htext
  rw [Token.identifier?, Token.identifier?, ← h.kind]
  cases hk : t.kind <;> simp_all

/-- A bare word reads the same in small letters. -/
theorem lower (h : t.Alike u) {words : List String} (hw : t.isKeywordOf words = true) :
    Text.lower t.value = Text.lower u.value := by
  have htext := h.text
  rw [typeText, typeText, ← h.kind] at htext
  rw [Token.isKeywordOf, Token.keyword?] at hw
  cases hk : t.kind with
  | word => rwa [hk] at htext
  | _ => simp [hk] at hw

/-- Alike tokens open and close the same parentheses. -/
theorem depthAfter (h : t.Alike u) (depth : Nat) : depthAfter depth t = depthAfter depth u := by
  rw [Statement.depthAfter, Statement.depthAfter, h.isMark, h.isMark]

end Token.Alike

/-- The statement as if it started on line zero. -/
def Statement.withoutLine : Statement → Statement
  | .createTable table _ => .createTable table 0
  | .addPrimaryKey table columns _ => .addPrimaryKey table columns 0
  | .addForeignKey clause _ => .addForeignKey clause 0

/-- Statements that say the same, but for their lines. -/
def SameStatements (ss ss' : List Statement) : Prop :=
  ss.map withoutLine = ss'.map withoutLine

/-- Lists of statements that say the same do so put together. -/
theorem SameStatements.append {ss ss' more more' : List Statement} (h : SameStatements ss ss')
    (hm : SameStatements more more') : SameStatements (ss ++ more) (ss' ++ more') := by
  rw [SameStatements, List.map_append, List.map_append, h, hm]

/-- Relations of tokens that no parser tells apart, and of the causes that they may lead to. -/
structure Likeness where
  token : Token → Token → Prop
  cause : SyntaxError → SyntaxError → Prop
  alike {t u : Token} : token t u → t.Alike u
  cause_refl (c : SyntaxError) : cause c c
  expected {t u : Token} (wanted : Wanted) :
    token t u →
      cause (.expected wanted ⟨some t.kind, t.value⟩) (.expected wanted ⟨some u.kind, u.value⟩)

namespace Likeness

variable (L : Likeness) {α β γ δ : Type}

/-- Related lists of tokens. -/
abbrev tokens : List Token → List Token → Prop :=
  List.Forall₂ L.token

/-- Answers that are related: both are values, or both are causes. -/
inductive Answers (V : α → β → Prop) : Parser.Answer α → Parser.Answer β → Prop
  | ok {a : α} {b : β} {ts us : List Token} (hv : V a b) (h : L.tokens ts us) :
    Answers V (.ok a ts) (.ok b us)
  | error {c d : SyntaxError} {ts us : List Token} (hc : L.cause c d) (h : L.tokens ts us) :
    Answers V (.error c ts) (.error d us)

/-- Parsers that give related answers on related tokens. -/
def Parsers (V : α → β → Prop) (p : Parser α) (q : Parser β) : Prop :=
  ∀ ts us, L.tokens ts us → L.Answers V (p ts) (q us)

variable {L} {V : α → β → Prop} {W : γ → δ → Prop}

/-- Related answers are two values or two causes, with related tokens left in both cases. -/
theorem Answers.cases {x : Parser.Answer α} {y : Parser.Answer β} (h : L.Answers V x y) :
    (∃ a b ts us, x = .ok a ts ∧ y = .ok b us ∧ V a b ∧ L.tokens ts us) ∨
      ∃ c d ts us, x = .error c ts ∧ y = .error d us ∧ L.cause c d ∧ L.tokens ts us := by
  cases h with
  | ok hv h => exact .inl ⟨_, _, _, _, rfl, rfl, hv, h⟩
  | error hc h => exact .inr ⟨_, _, _, _, rfl, rfl, hc, h⟩

/-! ## Sequences -/

/-- Answering related values without reading is alike. -/
theorem Parsers.pure {a : α} {b : β} (h : V a b) :
    L.Parsers V (Pure.pure a : Parser α) (Pure.pure b : Parser β) :=
  fun _ _ ht => .ok h ht

/-- Failing with one cause without reading is alike. -/
theorem Parsers.throw (c : SyntaxError) :
    L.Parsers V (throw c : Parser α) (throw c : Parser β) :=
  fun _ _ ht => .error (L.cause_refl c) ht

/-- Related answers followed by parsers that answer alike to what they leave. -/
theorem Answers.bind {p : Parser α} {q : Parser β} {f : α → Parser γ} {g : β → Parser δ}
    {ts us : List Token} (hp : L.Answers V (p ts) (q us))
    (hf : ∀ a b rest rest', p ts = .ok a rest → V a b → L.tokens rest rest' →
      L.Answers W (f a rest) (g b rest')) :
    L.Answers W ((p >>= f) ts) ((q >>= g) us) := by
  rcases hp.cases with ⟨a, b, rest, rest', hx, hy, hv, hrest⟩ |
    ⟨c, d, rest, rest', hx, hy, hc, hrest⟩
  · rw [bind_of_ok hx, bind_of_ok hy]
    exact hf a b rest rest' hx hv hrest
  · rw [bind_of_error hx, bind_of_error hy]
    exact .error hc hrest

/-- Sequences are alike when their first parts are, and their second parts are after related
values. -/
theorem Parsers.bind {p : Parser α} {q : Parser β} {f : α → Parser γ} {g : β → Parser δ}
    (hp : L.Parsers V p q) (hf : ∀ a b, V a b → L.Parsers W (f a) (g b)) :
    L.Parsers W (p >>= f) (q >>= g) :=
  fun ts us h => (hp ts us h).bind fun a b _ _ _ hv hrest => hf a b hv _ _ hrest

/-- A sequence that goes on with the same value. -/
theorem Parsers.andThen {p q : Parser α} {f : α → Parser γ} {g : α → Parser δ}
    (hp : L.Parsers Eq p q) (hf : ∀ a, L.Parsers W (f a) (g a)) :
    L.Parsers W (p >>= f) (q >>= g) :=
  hp.bind fun a _ h => h ▸ hf a

/-- Choices by one condition are alike when both of their sides are. -/
theorem Parsers.ite {c : Prop} [Decidable c] {p q : Parser α} {p' q' : Parser β}
    (hp : L.Parsers V p p') (hq : L.Parsers V q q') :
    L.Parsers V (if c then p else q) (if c then p' else q') := by
  split <;> assumption

/-! ## Small parsers -/

/-- What was found in place of what is wanted leads to related causes. -/
theorem expected_first {ts us : List Token} (h : L.tokens ts us) (wanted : Wanted) :
    L.cause (.expected wanted (Found.first ts)) (.expected wanted (Found.first us)) := by
  cases h with
  | nil => exact L.cause_refl _
  | cons ht _ => exact L.expected wanted ht

/-- Failures that want the same are alike, whatever values are asked for. -/
theorem parsers_failWanted (wanted : Wanted) :
    L.Parsers V (failWanted wanted : Parser α) (failWanted wanted : Parser β) :=
  fun _ _ h => .error (expected_first h wanted) h

/-- Alike tokens are taken alike by a test that does not tell them apart. -/
theorem parsers_accept {f : Token → Bool} (hf : ∀ {t u}, t.Alike u → f t = f u) :
    L.Parsers Eq (accept f) (accept f) := by
  intro ts us h
  cases h with
  | nil => exact .ok rfl .nil
  | @cons t u ts us ht h =>
    unfold accept
    dsimp only
    rw [← hf (L.alike ht)]
    split
    · exact .ok rfl h
    · exact .ok rfl (.cons ht h)

/-- Alike tokens are asked for alike by a test that does not tell them apart. -/
theorem parsers_require (wanted : Wanted) {f : Token → Bool}
    (hf : ∀ {t u}, t.Alike u → f t = f u) : L.Parsers Eq (require wanted f) (require wanted f) := by
  intro ts us h
  cases h with
  | nil => exact parsers_failWanted wanted [] [] .nil
  | @cons t u ts us ht h =>
    unfold require
    dsimp only
    rw [← hf (L.alike ht)]
    split
    · exact .ok rfl h
    · exact parsers_failWanted wanted _ _ (.cons ht h)

/-- A condition on values is checked alike. -/
theorem parsers_ensure (condition : Bool) (c : SyntaxError) :
    L.Parsers Eq (ensure condition c) (ensure condition c) :=
  .ite (.pure rfl) (.throw c)

/-- The first tokens are looked at alike by a test that does not tell them apart. -/
theorem parsers_startsWith {f : Token → Bool} (hf : ∀ {t u}, t.Alike u → f t = f u) :
    L.Parsers Eq (startsWith f) (startsWith f) := by
  intro ts us h
  cases h with
  | nil => exact .ok rfl .nil
  | cons ht h => exact .ok (by simp [hf (L.alike ht)]) (.cons ht h)

/-- A mark that may come is taken alike. -/
theorem parsers_acceptMark (mark : String) : L.Parsers Eq (acceptMark mark) (acceptMark mark) :=
  parsers_accept fun h => h.isMark mark

/-- A bare word that may come is taken alike. -/
theorem parsers_acceptKeyword (word : String) :
    L.Parsers Eq (acceptKeyword word) (acceptKeyword word) :=
  parsers_accept fun h => h.isKeyword word

/-- A mark that must come is taken alike. -/
theorem parsers_requireMark (mark : String) : L.Parsers Eq (requireMark mark) (requireMark mark) :=
  parsers_require _ fun h => h.isMark mark

/-- A bare word that must come is taken alike. -/
theorem parsers_requireKeyword (word : String) :
    L.Parsers Eq (requireKeyword word) (requireKeyword word) :=
  parsers_require _ fun h => h.isKeyword word

/-! ## Names -/

/-- Alike tokens are read as one name. -/
theorem parsers_identifier : L.Parsers Eq identifier identifier := by
  intro ts us h
  cases h with
  | nil => exact parsers_failWanted .identifier [] [] .nil
  | @cons t u ts us ht h =>
    unfold identifier
    dsimp only
    rw [← (L.alike ht).identifier?]
    cases t.identifier? with
    | some name => exact .ok rfl h
    | none => exact parsers_failWanted .identifier _ _ (.cons ht h)

/-- Alike tokens are read as one qualified name, or refused for related causes. -/
theorem parsers_qualifiedName : L.Parsers Eq qualifiedName qualifiedName :=
  parsers_identifier.andThen fun _ => (parsers_acceptMark ".").andThen fun _ =>
    (parsers_ensure _ _).andThen fun _ => parsers_identifier.andThen fun _ =>
      (parsers_startsWith fun h => h.isMark ".").andThen fun _ =>
        (parsers_ensure _ _).andThen fun _ => (parsers_ensure _ _).andThen fun _ => .pure rfl

/-- Alike tokens are read as the same names with separators. -/
theorem answers_moreNames (separator : String) {ts us : List Token} (h : L.tokens ts us) :
    L.Answers Eq (moreNames separator ts) (moreNames separator us) := by
  cases h with
  | nil => exact .ok rfl .nil
  | @cons t u ts us ht h =>
    rw [moreNames_cons, moreNames_cons, ← (L.alike ht).isMark]
    split
    · refine (parsers_identifier _ _ h).bind fun name _ rest _ hx hname hrest => ?_
      have := (shortens_identifier.of_ok hx).length_le
      exact (answers_moreNames separator hrest).bind fun _ _ _ _ _ hnames hlast =>
        .ok (hname ▸ hnames ▸ rfl) hlast
    · exact .ok rfl (.cons ht h)
termination_by ts.length
decreasing_by
  all_goals
    simp only [List.length_cons] at *
    omega

/-- Alike tokens are read as one list of names. -/
theorem parsers_nameList : L.Parsers Eq nameList nameList :=
  (parsers_requireMark "(").andThen fun _ => parsers_identifier.andThen fun _ =>
    Parsers.andThen (fun _ _ h => answers_moreNames "," h) fun _ =>
      (parsers_requireMark ")").andThen fun _ => .pure rfl

/-! ## Columns -/

/-- Of alike tokens an element keeps tokens that are alike. -/
theorem answers_element {ts us : List Token} (h : L.tokens ts us) (depth : Nat) :
    L.Answers L.tokens (element depth ts) (element depth us) := by
  induction h generalizing depth with
  | nil => exact .ok .nil .nil
  | @cons t u ts us ht h ih =>
    have ha := L.alike ht
    rw [element_cons, element_cons, ← ha.isMark, ← ha.isMark, ← ha.isMark, ← ha.depthAfter]
    split
    · exact .error (L.cause_refl _) (.cons ht h)
    split
    · exact .ok .nil (.cons ht h)
    · refine (ih (Statement.depthAfter depth t)).bind fun _ _ _ _ _ hv hrest => .ok ?_ hrest
      split
      · exact .cons ht hv
      · exact hv

/-- Alike tokens are the same arguments of a type, and alike tokens are left. -/
theorem arguments_alike {ts us : List Token} (h : L.tokens ts us) (depth : Nat) :
    (arguments depth ts).1 = (arguments depth us).1 ∧
      L.tokens (arguments depth ts).2 (arguments depth us).2 := by
  induction h generalizing depth with
  | nil => exact ⟨rfl, .nil⟩
  | @cons t u ts us ht h ih =>
    have ha := L.alike ht
    rw [arguments, arguments, ← ha.isMark, ← ha.depthAfter, ← ha.text]
    split
    · exact ⟨rfl, h⟩
    · exact ⟨congrArg (typeText t :: ·) (ih _).1, (ih _).2⟩

/-- An array bound is read alike. -/
theorem parsers_arrayBound : L.Parsers Eq arrayBound arrayBound :=
  (parsers_accept fun h => by rw [h.kind]).andThen fun _ => parsers_requireMark "]"

/-- Alike tokens have the same text behind the name of a type. -/
theorem answers_typeSuffix {ts us : List Token} (h : L.tokens ts us) :
    L.Answers Eq (typeSuffix ts) (typeSuffix us) := by
  cases h with
  | nil =>
    rw [typeSuffix]
    exact .ok rfl .nil
  | @cons t u ts us ht h =>
    have ha := L.alike ht
    have hargs := arguments_alike h 1
    rw [typeSuffix_cons, typeSuffix_cons, ← ha.isMark, ← ha.isMark, ← ha.isKeywordOf, ← ha.text,
      ← hargs.1]
    split
    · exact (answers_typeSuffix hargs.2).bind fun _ _ _ _ _ hv hrest => .ok (hv ▸ rfl) hrest
    split
    · refine (parsers_arrayBound ts us h).bind fun a _ rest _ hx _ hrest => ?_
      have := (shortens_arrayBound.of_ok hx).length_le
      exact (answers_typeSuffix hrest).bind fun _ _ _ _ _ hv hrest => .ok (hv ▸ rfl) hrest
    split
    · next hw =>
      rw [← ha.lower hw]
      exact (answers_typeSuffix h).bind fun _ _ _ _ _ hv hrest => .ok (hv ▸ rfl) hrest
    · exact .ok rfl (.cons ht h)
termination_by ts.length
decreasing_by
  all_goals
    have := (arguments_suffix 1 ts).length_le
    simp only [List.length_cons] at *
    omega

/-- Alike tokens are read as one type. -/
theorem parsers_columnType (name : String) : L.Parsers Eq (columnType name) (columnType name) := by
  intro ts us h
  cases h with
  | nil => exact .error (L.cause_refl _) .nil
  | @cons t u ts us ht h =>
    have ha := L.alike ht
    rw [columnType_cons, columnType_cons, ← ha.kind, ← ha.isKeywordOf, ← ha.text]
    split
    · exact (answers_moreNames "." h).bind fun _ _ _ _ _ hpath hrest =>
        (answers_typeSuffix hrest).bind fun _ _ _ _ _ hparts hlast =>
          .ok (hpath ▸ hparts ▸ rfl) hlast
    · exact .error (L.cause_refl _) (.cons ht h)

/-- Alike tokens say NOT NULL or do not. -/
theorem saysNotNull_alike : ∀ {ts us : List Token}, L.tokens ts us →
    saysNotNull ts = saysNotNull us
  | _, _, .nil => rfl
  | _, _, .cons _ .nil => rfl
  | _, _, .cons ht (.cons hu h) => by
    rw [saysNotNull, saysNotNull, (L.alike ht).isKeyword, (L.alike hu).isKeyword,
      saysNotNull_alike (.cons hu h)]

/-- A test that does not tell alike tokens apart finds one among alike tokens or none. -/
theorem any_alike {f : Token → Bool} (hf : ∀ {t u}, t.Alike u → f t = f u) {ts us : List Token}
    (h : L.tokens ts us) : ts.any f = us.any f := by
  induction h with
  | nil => rfl
  | cons ht _ ih => rw [List.any_cons, List.any_cons, hf (L.alike ht), ih]

/-- Alike tokens are read as one column behind its name. -/
theorem parsers_columnDefinition (name : String) :
    L.Parsers Eq (columnDefinition name) (columnDefinition name) :=
  (parsers_columnType name).andThen fun _ =>
    Parsers.bind (fun _ _ h => answers_element h 0) fun _ _ hmodifiers =>
      .pure (by rw [saysNotNull_alike hmodifiers,
        any_alike (fun h => h.isKeyword "DEFAULT") hmodifiers])

/-- Alike tokens are read as one column. -/
theorem parsers_column : L.Parsers Eq column column :=
  parsers_identifier.andThen fun name => parsers_columnDefinition name

/-! ## Tables -/

/-- Alike tokens are read as the same columns of a table. -/
theorem answers_tableBody (table : String) {ts us : List Token} (h : L.tokens ts us) :
    L.Answers Eq (tableBody table ts) (tableBody table us) := by
  cases h with
  | nil =>
    rw [tableBody]
    exact .error (L.cause_refl _) .nil
  | @cons t u ts us ht h =>
    have ha := L.alike ht
    rw [tableBody_cons, tableBody_cons, ← ha.isMark, ← ha.isMark, ← ha.isKeywordOf]
    split
    · exact .ok rfl h
    split
    · exact answers_tableBody table h
    split
    · refine (answers_element h 0).bind fun _ _ rest _ hx _ hrest => ?_
      have := ((shortens_element 0).of_ok hx).length_le
      exact answers_tableBody table hrest
    · refine (parsers_column _ _ (.cons ht h)).bind fun c c' rest _ hx hc hrest => ?_
      have := length_column_lt hx
      exact (answers_tableBody table hrest).bind fun _ _ _ _ _ hcs hlast =>
        .ok (hc ▸ hcs ▸ rfl) hlast
termination_by ts.length
decreasing_by
  all_goals
    simp only [List.length_cons] at *
    omega

/-- Of alike tokens alike ones are left after the next semicolon. -/
theorem skipStatement_alike {ts us : List Token} (h : L.tokens ts us) :
    L.tokens (skipStatement ts) (skipStatement us) := by
  induction h with
  | nil => exact .nil
  | cons ht h ih =>
    rw [skipStatement, skipStatement, ← (L.alike ht).isMark]
    split
    · exact h
    · exact ih

/-- Of alike tokens alike ones are left where an action ends. -/
theorem skipAction_alike {ts us : List Token} (h : L.tokens ts us) (depth : Nat) :
    L.tokens (skipAction depth ts) (skipAction depth us) := by
  induction h generalizing depth with
  | nil => exact .nil
  | cons ht h ih =>
    have ha := L.alike ht
    rw [skipAction, skipAction, ← ha.isMark, ← ha.isMark, ← ha.depthAfter]
    split
    · exact .cons ht h
    · exact ih _

/-- The words IF NOT EXISTS are taken alike. -/
theorem parsers_ifNotExists : L.Parsers Eq ifNotExists ifNotExists :=
  (parsers_acceptKeyword "IF").andThen fun _ =>
    .ite ((parsers_requireKeyword "NOT").andThen fun _ => parsers_requireKeyword "EXISTS")
      (.pure rfl)

/-- The words IF EXISTS are taken alike. -/
theorem parsers_ifExists : L.Parsers Eq ifExists ifExists :=
  (parsers_acceptKeyword "IF").andThen fun _ =>
    .ite (parsers_requireKeyword "EXISTS") (.pure rfl)

/-- The rest of a statement is passed over alike. -/
theorem parsers_skipStatement :
    L.Parsers Eq (modify skipStatement : Parser PUnit) (modify skipStatement) :=
  fun _ _ h => .ok rfl (skipStatement_alike h)

/-- Alike tokens declare the same table, on whatever lines they start. -/
theorem parsers_tableDeclaration (m n : Nat) :
    L.Parsers (fun s s' => SameStatements [s] [s']) (tableDeclaration m) (tableDeclaration n) :=
  parsers_ifNotExists.andThen fun _ => parsers_qualifiedName.andThen fun _ =>
    (parsers_requireMark "(").andThen fun _ =>
      Parsers.andThen (fun _ _ h => answers_tableBody _ h) fun _ =>
        parsers_skipStatement.andThen fun _ => .pure rfl

/-! ## Changes of tables -/

/-- Alike tokens are read as one foreign key. -/
theorem parsers_foreignKeyClause (table : String) :
    L.Parsers Eq (foreignKeyClause table) (foreignKeyClause table) :=
  parsers_nameList.andThen fun _ => (parsers_requireKeyword "REFERENCES").andThen fun _ =>
    parsers_qualifiedName.andThen fun _ =>
      Parsers.andThen ((parsers_startsWith fun h => h.isMark "(").andThen fun _ =>
        .ite parsers_nameList (.pure rfl)) fun _ => .pure rfl

/-- Alike tokens add the same key, on whatever lines they start. -/
theorem parsers_addedKey (table : String) (m n : Nat) :
    L.Parsers (fun s s' => SameStatements s.toList s'.toList) (addedKey table m)
      (addedKey table n) := by
  refine Parsers.andThen ?_ fun _ => (parsers_acceptKeyword "PRIMARY").andThen fun _ => .ite ?_ ?_
  · exact (parsers_acceptKeyword "CONSTRAINT").andThen fun _ =>
      .ite (parsers_identifier.andThen fun _ => .pure rfl) (.pure rfl)
  · exact (parsers_requireKeyword "KEY").andThen fun _ => parsers_nameList.andThen fun _ =>
      .pure rfl
  · refine (parsers_acceptKeyword "FOREIGN").andThen fun _ => .ite ?_ (.pure rfl)
    exact (parsers_requireKeyword "KEY").andThen fun _ =>
      (parsers_foreignKeyClause table).andThen fun _ => .pure rfl

/-- Alike tokens are the same action on a table. -/
theorem parsers_tableAction (table : String) (m n : Nat) :
    L.Parsers (fun s s' => SameStatements s.toList s'.toList) (tableAction table m)
      (tableAction table n) :=
  (parsers_acceptKeyword "ADD").andThen fun _ => .ite (parsers_addedKey table m n) (.pure rfl)

/-- Alike tokens are the same actions on a table, one after another. -/
theorem answers_tableActions (table : String) (m n : Nat) {ts us : List Token}
    (h : L.tokens ts us) :
    L.Answers SameStatements (tableActions table m ts) (tableActions table n us) := by
  rw [tableActions_eq, tableActions_eq]
  refine (parsers_tableAction table m n ts us h).bind fun s s' after after' hx hs hafter => ?_
  have hleft := (shortens_tableAction table m).of_ok hx
  have hrest := skipAction_alike hafter 0
  cases hr : skipAction 0 after with
  | nil =>
    rw [hr] at hrest
    rw [moreActions, moreActions, hr, List.forall₂_nil_left_iff.1 hrest]
    exact .ok hs .nil
  | cons t rest =>
    rw [hr] at hrest
    obtain ⟨u, rest', ht, hrest', hr'⟩ := List.forall₂_cons_left_iff.1 hrest
    have hlt : rest.length < ts.length := by
      have hskip := (skipAction_suffix 0 after).length_le
      rw [hr, List.length_cons] at hskip
      exact Nat.lt_of_lt_of_le hskip hleft.length_le
    rw [moreActions_of_cons hr, moreActions_of_cons hr', ← (L.alike ht).isMark]
    split
    · exact (answers_tableActions table m n hrest').bind fun _ _ _ _ _ hmore hlast =>
        .ok (hs.append hmore) hlast
    · exact .ok hs (.cons ht hrest')
termination_by ts.length

/-- Alike tokens change a table in the same way. -/
theorem parsers_tableChange (m n : Nat) :
    L.Parsers SameStatements (tableChange m) (tableChange n) :=
  parsers_ifExists.andThen fun _ => (parsers_acceptKeyword "ONLY").andThen fun _ =>
    parsers_qualifiedName.andThen fun _ =>
      Parsers.bind (fun _ _ h => answers_tableActions _ m n h) fun _ _ hs =>
        (parsers_acceptMark ";").andThen fun _ => .pure hs

/-! ## Scripts -/

/-- Alike tokens are read as the same statement. -/
theorem parsers_statement : L.Parsers SameStatements statement statement := by
  intro ts us h
  have skip : ∀ {ts us}, L.tokens ts us →
      L.Answers SameStatements (.ok [] (skipStatement ts)) (.ok [] (skipStatement us)) :=
    fun h => .ok rfl (skipStatement_alike h)
  match h with
  | .nil => exact skip .nil
  | .cons ht .nil => exact skip (.cons ht .nil)
  | .cons (a := t) (b := t') ht (.cons (a := u) (b := u') hu h) =>
    unfold statement
    dsimp only
    rw [← (L.alike hu).isKeyword, ← (L.alike ht).isKeyword, ← (L.alike ht).isKeyword]
    split
    · split
      · rcases (parsers_tableDeclaration t.place.line t'.place.line _ _ h).cases with
          ⟨a, b, rest, rest', hx, hy, hv, hrest⟩ | ⟨c, d, rest, rest', hx, hy, hc, hrest⟩
        · rw [hx, hy]
          exact .ok hv hrest
        · rw [hx, hy]
          exact .error hc hrest
      · split
        · exact parsers_tableChange _ _ _ _ h
        · exact skip (.cons ht (.cons hu h))
    · exact skip (.cons ht (.cons hu h))

variable (L) in
/-- Warnings about statements that fail for related causes. -/
def Warnings (w w' : Warning) : Prop :=
  w.kind = w'.kind ∧ ∃ c d, L.cause c d ∧ w.message = c.message ∧ w'.message = d.message

/-- Related tokens are read as the same statements, with warnings for related causes. -/
theorem collect_alike {ts us : List Token} (h : L.tokens ts us) :
    SameStatements (collect ts).1 (collect us).1 ∧
      List.Forall₂ L.Warnings (collect ts).2 (collect us).2 := by
  cases h with
  | nil =>
    rw [collect]
    exact ⟨rfl, .nil⟩
  | @cons t u ts us ht h =>
    rw [collect, collect]
    rcases (parsers_statement _ _ (.cons ht h)).cases with
      ⟨ss, ss', rest, rest', hx, hy, hv, hrest⟩ | ⟨c, d, rest, rest', hx, hy, hc, hrest⟩
    · have hround : Statement.round t ts = (.inl ss, rest) := by rw [Statement.round, hx]
      have hround' : Statement.round u us = (.inl ss', rest') := by rw [Statement.round, hy]
      have hlength : rest.length < (t :: ts).length := by
        simpa only [hround] using length_round_lt t ts
      have hmore := collect_alike hrest
      rw [hround, hround']
      exact ⟨hv.append hmore.1, hmore.2⟩
    · have hround : Statement.round t ts
          = (.inr ⟨.syntactic, c.message, some t.place.line⟩, skipStatement rest) := by
        rw [Statement.round, hx]
      have hround' : Statement.round u us
          = (.inr ⟨.syntactic, d.message, some u.place.line⟩, skipStatement rest') := by
        rw [Statement.round, hy]
      have hlength : (skipStatement rest).length < (t :: ts).length := by
        simpa only [hround] using length_round_lt t ts
      have hmore := collect_alike (skipStatement_alike hrest)
      rw [hround, hround']
      exact ⟨hmore.1, .cons ⟨rfl, c, d, hc, rfl, rfl⟩ hmore.2⟩
termination_by ts.length
decreasing_by all_goals exact hlength

end Likeness

end SchemaCanvas.Sql
