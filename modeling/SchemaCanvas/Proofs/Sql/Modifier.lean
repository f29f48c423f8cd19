import SchemaCanvas.Proofs.Sql.Written

/-!
# Column definitions with modifiers

A column may be followed by modifiers in any order, such as NOT NULL, a default, or a reference to
another table (`Modifier`). Each of them is a row of tokens in which parentheses and brackets are
closed (`TokenTree`). Of a column definition only the tokens outside parentheses are looked at, up
to the first comma among them: they are to tell whether the column is nullable and has a default
(`ColumnDefinition.Faithful`). Without such a comma they do, unless DEFAULT stands in a modifier
other than a default, or NOT NULL in the brackets of a default (`ColumnDefinition.faithful_iff`).
-/

namespace SchemaCanvas.Sql

open SchemaCanvas.Sql.Statement

/-! ## Rows of tokens -/

/-- Tokens in a row, in which parentheses and brackets are closed. -/
inductive TokenTree
  | nil
  | token (t : Token) (more : TokenTree)
  | parentheses (inside more : TokenTree)
  | brackets (inside more : TokenTree)

/-- The words that are looked for after the type of a column. -/
def tellingWords : List String :=
  ["NOT", "NULL", "DEFAULT"]

namespace Token

/-- Whether a token is no parenthesis, semicolon or comma, and none of the words looked for. -/
def isSilent (t : Token) : Bool :=
  t.isFlat && !t.isMark "," && !t.isKeywordOf tellingWords

/-- Whether a token is a name and none of the words that are looked for. -/
def isName (t : Token) : Bool :=
  t.identifier?.isSome && !t.isKeywordOf tellingWords

variable {t : Token}

/-- A name is no punctuation. -/
theorem kind_of_isName (h : t.isName = true) : t.kind ≠ .punctuation := by
  intro hk
  simp [isName, identifier?, hk] at h

/-- A silent token is no parenthesis and no semicolon. -/
theorem isFlat_of_isSilent (h : t.isSilent = true) : t.isFlat = true := by
  simp only [isSilent, Bool.and_eq_true] at h
  exact h.1.1

/-- A token is a keyword when it is a bare word with these capitals. -/
theorem isKeyword_of_isKeywordOf {words : List String} (h : t.isKeywordOf words = false)
    {word : String} (hword : word ∈ words) : t.isKeyword word = false := by
  rw [isKeywordOf] at h
  rw [isKeyword]
  cases hk : t.keyword? with
  | none => rfl
  | some other =>
    rw [hk] at h
    refine decide_eq_false fun he => of_decide_eq_false h ?_
    rw [Option.some.inj he]
    exact hword

end Token

namespace TokenTree

/-- The tokens of a tree. -/
def tokens : TokenTree → List Token
  | nil => []
  | token t more => t :: more.tokens
  | parentheses inside more => mark "(" :: (inside.tokens ++ mark ")" :: more.tokens)
  | brackets inside more => mark "[" :: (inside.tokens ++ mark "]" :: more.tokens)

/-- The tokens outside parentheses, with the parenthesis that closes each outermost pair. -/
def outer : TokenTree → List Token
  | nil => []
  | token t more => t :: more.outer
  | parentheses _ more => mark ")" :: more.outer
  | brackets inside more => mark "[" :: (inside.outer ++ mark "]" :: more.outer)

/-- Whether the tokens outside parentheses and brackets are as asked, and no token is a parenthesis
or a semicolon. -/
def holds (p : Token → Bool) : TokenTree → Bool
  | nil => true
  | token t more => p t && more.holds p
  | parentheses inside more | brackets inside more =>
    inside.holds Token.isFlat && more.holds p

/-- The tokens put before a tree. -/
def row (ts : List Token) (more : TokenTree) : TokenTree :=
  ts.foldr token more

variable {p q : Token → Bool}

/-- Tokens put before a tree stand outside its parentheses. -/
theorem outer_row (ts : List Token) (more : TokenTree) :
    (row ts more).outer = ts ++ more.outer := by
  induction ts with
  | nil => rfl
  | cons t ts ih => exact congrArg (t :: ·) ih

/-- A tree with tokens put before it passes a test exactly if the tokens and the tree do. -/
theorem holds_row (ts : List Token) (more : TokenTree) :
    (row ts more).holds p = (ts.all p && more.holds p) := by
  induction ts with
  | nil => rfl
  | cons t ts ih =>
    have hcons : (row (t :: ts) more).holds p = (p t && (row ts more).holds p) := rfl
    rw [hcons, ih, List.all_cons, Bool.and_assoc]

/-- A tree whose tokens pass a test passes every weaker one. -/
theorem holds_mono (hpq : ∀ t, p t = true → q t = true) {tree : TokenTree}
    (h : tree.holds p = true) : tree.holds q = true := by
  induction tree with
  | nil => rfl
  | token t more ih =>
    obtain ⟨ht, hmore⟩ := Bool.and_eq_true_iff.1 h
    exact Bool.and_eq_true_iff.2 ⟨hpq t ht, ih hmore⟩
  | parentheses inside more _ ih | brackets inside more _ ih =>
    obtain ⟨hi, hmore⟩ := Bool.and_eq_true_iff.1 h
    exact Bool.and_eq_true_iff.2 ⟨hi, ih hmore⟩

/-- The parentheses of a tree are balanced. -/
theorem outside {tree : TokenTree} (h : tree.holds Token.isFlat = true) :
    Outside tree.tokens tree.outer := by
  induction tree with
  | nil => exact .nil
  | token t more ih =>
    obtain ⟨ht, hmore⟩ := Bool.and_eq_true_iff.1 h
    exact .token ht (ih hmore)
  | parentheses inside more ihi ih =>
    obtain ⟨hi, hmore⟩ := Bool.and_eq_true_iff.1 h
    exact .group (ihi hi) (ih hmore)
  | brackets inside more ihi ih =>
    obtain ⟨hi, hmore⟩ := Bool.and_eq_true_iff.1 h
    have hopen : (mark "[").isFlat = true := by decide
    have hclose : (mark "]").isFlat = true := by decide
    exact .token hopen ((ihi hi).append (.token hclose (ih hmore)))

end TokenTree

/-! ## Modifiers -/

/-- What a reference does when the row that it refers to changes. -/
inductive ReferenceAction
  | noAction
  | restrict
  | cascade
  | setNull
  | setDefault
  deriving DecidableEq

/-- The words of an action. -/
def ReferenceAction.words : ReferenceAction → List String
  | noAction => ["NO", "ACTION"]
  | restrict => ["RESTRICT"]
  | cascade => ["CASCADE"]
  | setNull => ["SET", "NULL"]
  | setDefault => ["SET", "DEFAULT"]

/-- An action of a reference on a deletion, or else on an update. -/
structure ReferenceTrigger where
  onDelete : Bool
  action : ReferenceAction

/-- The tokens of an action with its trigger. -/
def ReferenceTrigger.tokens (r : ReferenceTrigger) : List Token :=
  ("ON" :: (if r.onDelete then "DELETE" else "UPDATE") :: r.action.words).map bareWord

/-- An action with its trigger holds no marks and no NOT, and DEFAULT only when it sets the
default. -/
theorem ReferenceTrigger.tokens_tell (r : ReferenceTrigger) :
    r.tokens.all Token.isFlat = true ∧ r.tokens.any (·.isKeyword "NOT") = false ∧
      r.tokens.any (·.isKeyword "DEFAULT") = decide (r.action = .setDefault) := by
  obtain ⟨onDelete, action⟩ := r
  cases onDelete <;> cases action <;> decide

/-- What may be said of a column after its type. -/
inductive Modifier
  | notNull
  | null
  | default (value : TokenTree)
  | identity (always : Bool)
  | primaryKey
  | unique
  | check (condition : TokenTree)
  | collate (name : Token)
  | references (schema table column : Token) (triggers : List ReferenceTrigger)

namespace Modifier

/-- The tokens of a modifier. -/
def tree : Modifier → TokenTree
  | notNull => .row [bareWord "NOT", bareWord "NULL"] .nil
  | null => .row [bareWord "NULL"] .nil
  | default value => .token (bareWord "DEFAULT") value
  | identity always =>
    .row ((["GENERATED"] ++ (if always then ["ALWAYS"] else ["BY", "DEFAULT"]) ++
      ["AS", "IDENTITY"]).map bareWord) .nil
  | primaryKey => .row [bareWord "PRIMARY", bareWord "KEY"] .nil
  | unique => .row [bareWord "UNIQUE"] .nil
  | check condition => .token (bareWord "CHECK") (.parentheses condition .nil)
  | collate name => .row [bareWord "COLLATE", name] .nil
  | references schema table column triggers =>
    .row [bareWord "REFERENCES", schema, mark ".", table]
      (.parentheses (.token column .nil) (.row (triggers.flatMap ReferenceTrigger.tokens) .nil))

/-- Whether a modifier may stand in a column definition. The value of a default has no comma and
none of the words NOT, NULL and DEFAULT outside parentheses and brackets. -/
def allowed : Modifier → Bool
  | default value => value.holds Token.isSilent
  | check condition => condition.holds Token.isFlat
  | collate name => name.isName
  | references schema table column _ => schema.isName && table.isName && column.isName
  | _ => true

/-- Whether a modifier is NOT NULL. -/
def isNotNull : Modifier → Bool
  | notNull => true
  | _ => false

/-- Whether a modifier is a default. -/
def isDefault : Modifier → Bool
  | default _ => true
  | _ => false

/-- Whether a modifier holds the word DEFAULT without being a default: an identity that is generated
by default, or a reference that is set to the default. -/
def mentionsDefault : Modifier → Bool
  | identity always => !always
  | references _ _ _ triggers => triggers.any (·.action = .setDefault)
  | _ => false

/-- Whether a modifier is a default with NOT NULL in brackets. -/
def bracketsNotNull : Modifier → Bool
  | default value => saysNotNull value.outer
  | _ => false

variable {m : Modifier}

/-- A bare word is no parenthesis and no semicolon. -/
theorem isFlat_bareWord (word : String) : (bareWord word).isFlat = true :=
  Token.isFlat_of_kind nofun

/-- The tokens of a modifier that is allowed have no semicolon, and their parentheses are closed. -/
theorem holds_tree (h : m.allowed = true) : m.tree.holds Token.isFlat = true := by
  have hname : ∀ {t : Token}, t.isName = true → t.isFlat = true := fun ht =>
    Token.isFlat_of_kind (Token.kind_of_isName ht)
  cases m with
  | default value =>
    exact Bool.and_eq_true_iff.2 ⟨isFlat_bareWord _,
      TokenTree.holds_mono (fun _ => Token.isFlat_of_isSilent) h⟩
  | identity always => cases always <;> decide
  | check condition =>
    exact Bool.and_eq_true_iff.2 ⟨isFlat_bareWord _, Bool.and_eq_true_iff.2 ⟨h, rfl⟩⟩
  | collate name =>
    have hn := hname (show name.isName = true from h)
    simp [tree, TokenTree.holds_row, TokenTree.holds, isFlat_bareWord, hn]
  | references schema table column triggers =>
    simp only [allowed, Bool.and_eq_true] at h
    have htriggers : (triggers.flatMap ReferenceTrigger.tokens).all Token.isFlat = true := by
      rw [List.all_flatMap]
      exact List.all_eq_true.2 fun r _ => r.tokens_tell.1
    have hpoint : (mark ".").isFlat = true := by decide
    simp [tree, TokenTree.holds_row, TokenTree.holds, isFlat_bareWord, hname h.1.1, hname h.1.2,
      hname h.2, hpoint, htriggers]
  | _ => decide

end Modifier

/-! ## Words outside parentheses -/

section Telling

variable {t : Token} {ts us : List Token}

/-- A token that is not the word NOT starts no NOT NULL. -/
theorem saysNotNull_cons (h : t.isKeyword "NOT" = false) (ts : List Token) :
    saysNotNull (t :: ts) = saysNotNull ts := by
  cases ts with
  | nil => rfl
  | cons u ts => rw [saysNotNull, h, Bool.false_and, Bool.false_or]

/-- Tokens without NOT do not make what follows them say NOT NULL. -/
theorem saysNotNull_append (h : ts.any (·.isKeyword "NOT") = false) (us : List Token) :
    saysNotNull (ts ++ us) = saysNotNull us := by
  induction ts with
  | nil => rfl
  | cons t ts ih =>
    obtain ⟨ht, hts⟩ := Bool.or_eq_false_iff.1 (List.any_cons ▸ h)
    rw [List.cons_append, saysNotNull_cons ht, ih hts]

/-- A mark keeps a NOT before it from a NULL after it. -/
theorem saysNotNull_append_mark (ts : List Token) (value : String) (us : List Token) :
    saysNotNull (ts ++ mark value :: us) = (saysNotNull ts || saysNotNull us) := by
  have hmark : ∀ us, saysNotNull (mark value :: us) = saysNotNull us := saysNotNull_cons rfl
  induction ts with
  | nil => exact hmark us
  | cons t ts ih =>
    cases ts with
    | nil =>
      have hnull : (mark value).isKeyword "NULL" = false := rfl
      rw [List.cons_append, List.nil_append, saysNotNull, hnull, Bool.and_false, Bool.false_or,
        hmark]
      rfl
    | cons u ts =>
      rw [List.cons_append, List.cons_append, saysNotNull, ← List.cons_append, ih, saysNotNull,
        Bool.or_assoc]

/-- What follows the value of a default is told apart from it: no NOT stands at its end. -/
theorem TokenTree.saysNotNull_outer_append {tree : TokenTree}
    (h : tree.holds Token.isSilent = true) (us : List Token) :
    saysNotNull (tree.outer ++ us) = (saysNotNull tree.outer || saysNotNull us) := by
  induction tree with
  | nil => rfl
  | token t more ih =>
    obtain ⟨ht, hmore⟩ := Bool.and_eq_true_iff.1 h
    have hnot : t.isKeyword "NOT" = false := by
      simp only [Token.isSilent, Bool.and_eq_true, Bool.not_eq_true'] at ht
      exact Token.isKeyword_of_isKeywordOf ht.2 (by decide)
    rw [outer, List.cons_append, saysNotNull_cons hnot, saysNotNull_cons hnot, ih hmore]
  | parentheses inside more _ ih =>
    have hmore := (Bool.and_eq_true_iff.1 h).2
    rw [outer, List.cons_append, saysNotNull_cons rfl, saysNotNull_cons rfl, ih hmore]
  | brackets inside more _ ih =>
    have hmore := (Bool.and_eq_true_iff.1 h).2
    rw [outer, List.cons_append, saysNotNull_cons rfl, saysNotNull_cons rfl, List.append_assoc,
      List.cons_append, saysNotNull_append_mark, saysNotNull_append_mark, ih hmore, Bool.or_assoc]

namespace Modifier

variable {m : Modifier}

/-- A name is none of the words that are looked for. -/
theorem isKeyword_of_isName (word : String) (hword : word ∈ tellingWords) (ht : t.isName = true) :
    t.isKeyword word = false := by
  simp only [Token.isName, Bool.and_eq_true, Bool.not_eq_true'] at ht
  exact Token.isKeyword_of_isKeywordOf ht.2 hword

/-- None of the words that are looked for stands in a collation. -/
theorem any_collate {word : String} (hword : word ∈ tellingWords) {name : Token}
    (h : name.isName = true) : (collate name).tree.outer.any (·.isKeyword word) = false := by
  have hname := isKeyword_of_isName word hword h
  have hcollate : ∀ word ∈ tellingWords, (bareWord "COLLATE").isKeyword word = false := by decide
  simp [tree, TokenTree.outer_row, TokenTree.outer, hname, hcollate word hword]

/-- Of the words that are looked for, a reference holds those that its triggers hold. -/
theorem any_references {word : String} (hword : word ∈ tellingWords) {schema table column : Token}
    {triggers : List ReferenceTrigger}
    (h : (references schema table column triggers).allowed = true) :
    (references schema table column triggers).tree.outer.any (·.isKeyword word)
      = triggers.any fun r => r.tokens.any (·.isKeyword word) := by
  simp only [allowed, Bool.and_eq_true] at h
  have hschema := isKeyword_of_isName word hword h.1.1
  have htable := isKeyword_of_isName word hword h.1.2
  have hwords : ∀ word ∈ tellingWords, (bareWord "REFERENCES").isKeyword word = false ∧
      (mark ".").isKeyword word = false ∧ (mark ")").isKeyword word = false := by decide
  simp [tree, TokenTree.outer_row, TokenTree.outer, hschema, htable, hwords word hword,
    List.any_flatMap]

/-- A modifier that is not NOT NULL holds NOT only in the value of a default. -/
theorem any_not (h : m.allowed = true) (hnot : m.isNotNull = false)
    (hdefault : m.isDefault = false) : m.tree.outer.any (·.isKeyword "NOT") = false := by
  cases m with
  | notNull => cases hnot
  | default value => cases hdefault
  | identity always => cases always <;> decide
  | check condition => rfl
  | collate name => exact any_collate (by decide) h
  | references schema table column triggers =>
    rw [any_references (by decide) h]
    exact List.any_eq_false.2 fun r _ => by simp [r.tokens_tell.2.1]
  | _ => decide

/-- A modifier says NOT NULL when it is NOT NULL, or has it in the brackets of a default, whatever
follows it. -/
theorem saysNotNull_append (h : m.allowed = true) (us : List Token) :
    saysNotNull (m.tree.outer ++ us) = (m.isNotNull || m.bracketsNotNull || saysNotNull us) := by
  -- Only the value of a default can hold NOT apart from NOT NULL, and it holds it in brackets.
  cases hnot : m.isNotNull with
  | true =>
    cases m with
    | notNull => rfl
    | _ => cases hnot
  | false =>
    cases hdefault : m.isDefault with
    | true =>
      cases m with
      | default value =>
        have hword : (bareWord "DEFAULT").isKeyword "NOT" = false := by decide
        rw [tree, TokenTree.outer, List.cons_append, saysNotNull_cons hword,
          TokenTree.saysNotNull_outer_append h]
        rfl
      | _ => cases hdefault
    | false =>
      have hbrackets : m.bracketsNotNull = false := by
        cases m with
        | default value => cases hdefault
        | _ => rfl
      rw [Sql.saysNotNull_append (any_not h hnot hdefault), hbrackets]
      rfl

/-- A modifier says DEFAULT when it is a default, or mentions it. -/
theorem any_default (h : m.allowed = true) :
    m.tree.outer.any (·.isKeyword "DEFAULT") = (m.isDefault || m.mentionsDefault) := by
  cases m with
  | default value => rfl
  | identity always => cases always <;> decide
  | check condition => rfl
  | collate name => exact any_collate (by decide) h
  | references schema table column triggers =>
    rw [any_references (by decide) h]
    exact congrArg triggers.any (funext fun r => r.tokens_tell.2.2)
  | _ => decide

end Modifier

end Telling

/-! ## Column definitions -/

/-- A column as it is defined: a quoted name, a type of one word, and modifiers. -/
structure ColumnDefinition where
  name : String
  type : String
  modifiers : List Modifier
  upper_type : Text.upper type ∉ typeEndWords
  allowed_modifiers : ∀ m ∈ modifiers, m.allowed = true

/-- Whether an element of a table is empty or starts with a word of table constraints, so that it is
passed over. -/
def Statement.skipped : List Token → Bool
  | [] => true
  | t :: _ => t.isKeywordOf tableConstraintWords

namespace ColumnDefinition

variable (c : ColumnDefinition)

/-- The tokens of a column definition. -/
def tokens : List Token :=
  quotedName c.name :: bareWord c.type :: c.modifiers.flatMap fun m => m.tree.tokens

/-- The column that is defined: NOT NULL makes it not nullable, and a default gives it a default. -/
def column : Column where
  name := c.name
  type := Text.lower c.type
  nullable := !c.modifiers.any Modifier.isNotNull
  hasDefault := c.modifiers.any Modifier.isDefault

/-- The tokens of the modifiers outside parentheses, cut at the commas. -/
def pieces : List (List Token) :=
  (c.modifiers.flatMap fun m => m.tree.outer).splitOnP (·.isMark ",")

/-- The column that the first piece tells of. -/
def firstColumn : Column where
  name := c.name
  type := Text.lower c.type
  nullable := !saysNotNull (c.pieces.headD [])
  hasDefault := (c.pieces.headD []).any (·.isKeyword "DEFAULT")

/-- Whether the pieces after the first one are passed over. -/
def Whole : Prop :=
  ∀ piece ∈ c.pieces.tail, skipped piece = true

/-- Whether the tokens of the modifiers tell what the modifiers say. -/
def Faithful : Prop :=
  c.Whole ∧ c.firstColumn = c.column

instance : Decidable c.Whole :=
  inferInstanceAs (Decidable (∀ piece ∈ c.pieces.tail, skipped piece = true))

instance : Decidable c.Faithful :=
  inferInstanceAs (Decidable (_ ∧ _))

variable {c}

/-- The modifiers of a column are balanced, with the tokens outside parentheses in the order of the
modifiers. -/
theorem outside : Outside (c.modifiers.flatMap fun m => m.tree.tokens)
    (c.modifiers.flatMap fun m => m.tree.outer) := by
  have hallowed := c.allowed_modifiers
  generalize c.modifiers = ms at hallowed
  induction ms with
  | nil => exact .nil
  | cons m ms ih =>
    have hm := TokenTree.outside (m.holds_tree (hallowed m List.mem_cons_self))
    exact hm.append (ih fun m' hm' => hallowed m' (List.mem_cons_of_mem m hm'))

/-- NOT NULL is found exactly if a modifier is NOT NULL or has it in brackets. -/
theorem saysNotNull_outer {ms : List Modifier} (h : ∀ m ∈ ms, m.allowed = true) :
    saysNotNull (ms.flatMap fun m => m.tree.outer)
      = (ms.any Modifier.isNotNull || ms.any Modifier.bracketsNotNull) := by
  induction ms with
  | nil => rfl
  | cons m ms ih =>
    obtain ⟨hm, hms⟩ := List.forall_mem_cons.1 h
    rw [List.flatMap_cons, Modifier.saysNotNull_append hm, ih hms, List.any_cons, List.any_cons]
    ac_rfl

/-- The word DEFAULT is found exactly if a modifier is a default or mentions the word. -/
theorem any_default_outer {ms : List Modifier} (h : ∀ m ∈ ms, m.allowed = true) :
    (ms.flatMap fun m => m.tree.outer).any (·.isKeyword "DEFAULT")
      = (ms.any Modifier.isDefault || ms.any Modifier.mentionsDefault) := by
  induction ms with
  | nil => rfl
  | cons m ms ih =>
    obtain ⟨hm, hms⟩ := List.forall_mem_cons.1 h
    rw [List.flatMap_cons, List.any_append, Modifier.any_default hm, ih hms, List.any_cons,
      List.any_cons]
    ac_rfl

/-- Without a comma outside parentheses, a column definition tells what its modifiers say when
DEFAULT is mentioned elsewhere only beside a default, and NOT NULL in brackets only beside NOT
NULL. -/
theorem faithful_iff
    (h : ∀ t ∈ c.modifiers.flatMap fun m => m.tree.outer, t.isMark "," = false) :
    c.Faithful ↔
      (c.modifiers.any Modifier.mentionsDefault = true →
        c.modifiers.any Modifier.isDefault = true) ∧
      (c.modifiers.any Modifier.bracketsNotNull = true →
        c.modifiers.any Modifier.isNotNull = true) := by
  have hpieces : c.pieces = [c.modifiers.flatMap fun m => m.tree.outer] :=
    List.splitOnP_eq_singleton h
  have hwhole : c.Whole := by
    rw [Whole, hpieces]
    exact nofun
  have hfirst : c.firstColumn = ⟨c.name, Text.lower c.type,
      !(c.modifiers.any Modifier.isNotNull || c.modifiers.any Modifier.bracketsNotNull),
      c.modifiers.any Modifier.isDefault || c.modifiers.any Modifier.mentionsDefault⟩ := by
    rw [firstColumn, hpieces, List.headD_cons, saysNotNull_outer c.allowed_modifiers,
      any_default_outer c.allowed_modifiers]
  rw [Faithful, and_iff_right hwhole, hfirst, column, Column.mk.injEq, Bool.not_inj_iff,
    Bool.or_eq_left_iff_imp, Bool.or_eq_left_iff_imp]
  exact ⟨fun h => ⟨h.2.2.2, h.2.2.1⟩, fun h => ⟨rfl, rfl, h.2, h.1⟩⟩

end ColumnDefinition

end SchemaCanvas.Sql
