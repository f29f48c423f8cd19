import SchemaCanvas.Proofs.Sql.Balanced

/-!
# Tables and keys as they are written

Tables and keys are declared in SQL with every name in double quotes (`Table.declaration`,
`Table.primaryKeyDeclaration`, `Table.foreignKeyDeclaration`). The parts of the texts spell tokens,
and the parsers read from the tokens what was written: the name of a table
(`Statement.qualifiedName_written`), a list of names (`Statement.nameList_written`), a type that is
a word with arguments and brackets (`Statement.columnType_written`), and a column
(`Statement.column_written`).
-/

namespace SchemaCanvas

open Sql

/-! ## Texts -/

namespace Sql

/-- Names in double quotes, in parentheses and with commas between them. -/
def quoteNames (names : List String) : String :=
  "(" ++ ", ".intercalate (names.map quoteName) ++ ")"

/-- A type that is one word in small letters, with numerals in parentheses if it has arguments, and
with any number of array brackets. -/
structure PlainType where
  word : String
  arguments : Option (List String)
  brackets : Nat
  isBareWord_word : isBareWord word = true
  lower_word : Text.lower word = word
  upper_word : Text.upper word ∉ Statement.typeEndWords
  isNumeral_arguments : ∀ numerals ∈ arguments, ∀ digits ∈ numerals, isNumeral digits = true

/-- The text of a type. -/
def PlainType.text (type : PlainType) : String :=
  type.word ++ (match type.arguments with
    | none => ""
    | some numerals => "(" ++ ",".intercalate numerals ++ ")") ++
    String.join (List.replicate type.brackets "[]")

end Sql

/-- The text of a column: its name, its type and what else is known of it. -/
def Column.written (c : Column) : String :=
  quoteName c.name ++ " " ++ c.type ++ (if c.nullable then "" else " NOT NULL") ++
    (if c.hasDefault then " DEFAULT 0" else "")

/-- Whether the type of a column is a word with arguments and brackets. -/
def Column.Plain (c : Column) : Prop :=
  ∃ type : PlainType, c.type = type.text

namespace Table

/-- The name of a table with its schema's, each in double quotes. -/
def writtenName (t : Table) : String :=
  quoteName t.schema ++ "." ++ quoteName t.name

/-- The statement that declares a table and its columns. -/
def declaration (t : Table) : String :=
  "CREATE TABLE " ++ t.writtenName ++ " (" ++ ", ".intercalate (t.columns.map Column.written) ++
    ");\n"

/-- The statement that adds a key to a table. -/
def alteration (t : Table) (key : String) : String :=
  "ALTER TABLE " ++ t.writtenName ++ " ADD " ++ key ++ ";\n"

/-- The statement that declares the primary key of a table, if it has one. -/
def primaryKeyDeclaration (t : Table) : String :=
  if t.primaryKey = [] then "" else t.alteration ("PRIMARY KEY " ++ quoteNames t.primaryKey)

/-- The statement that declares a reference from a column of a table to a column of another. -/
def foreignKeyDeclaration (source : Table) (column : String) (target : Table)
    (referenced : String) : String :=
  source.alteration ("FOREIGN KEY " ++ quoteNames [column] ++ " REFERENCES " ++
    target.writtenName ++ " " ++ quoteNames [referenced])

end Table

namespace Sql

open SchemaCanvas.Sql.Parser

/-! ## First tokens -/

/-- The token of a mark is known as this mark. -/
theorem isMark_mark (value : String) : (mark value).isMark value = true := by
  simp [mark, Token.isMark]

/-- The token of a word in capitals is known as this word. -/
theorem isKeyword_bareWord {word : String} (h : Text.upper word = word) :
    (bareWord word).isKeyword word = true := by
  simp [bareWord, Token.isKeyword, Token.keyword?, h]

namespace Parser

/-- A mark that comes is taken. -/
theorem acceptMark_mark (value : String) (ts : List Token) :
    acceptMark value (mark value :: ts) = .ok true ts := by
  rw [acceptMark, accept, if_pos (isMark_mark value)]

/-- A mark that must come and does is taken. -/
theorem requireMark_mark (value : String) (ts : List Token) :
    requireMark value (mark value :: ts) = .ok () ts := by
  rw [requireMark, require, if_pos (isMark_mark value)]

/-- A bare word in capitals that comes is taken. -/
theorem acceptKeyword_bareWord {word : String} (h : Text.upper word = word) (ts : List Token) :
    acceptKeyword word (bareWord word :: ts) = .ok true ts := by
  rw [acceptKeyword, accept, if_pos (isKeyword_bareWord h)]

/-- Another token than the bare word is left. -/
theorem acceptKeyword_of_false {word : String} {t : Token} (h : t.isKeyword word = false)
    (ts : List Token) : acceptKeyword word (t :: ts) = .ok false (t :: ts) := by
  rw [acceptKeyword, accept, h]
  rfl

/-- A bare word in capitals that must come and does is taken. -/
theorem requireKeyword_bareWord {word : String} (h : Text.upper word = word) (ts : List Token) :
    requireKeyword word (bareWord word :: ts) = .ok () ts := by
  rw [requireKeyword, require, if_pos (isKeyword_bareWord h)]

/-- Only the first token is looked at. -/
theorem startsWith_cons (f : Token → Bool) (t : Token) (ts : List Token) :
    startsWith f (t :: ts) = .ok (f t) (t :: ts) := rfl

/-- A condition that holds is passed. -/
theorem ensure_of_true {condition : Bool} (h : condition = true) (cause : SyntaxError)
    (ts : List Token) : ensure condition cause ts = .ok () ts := by
  rw [ensure, if_pos h]
  rfl

end Parser

namespace Statement

/-! ## Names -/

/-- The tokens of a table's name. -/
def nameTokens (schema table : String) : List Token :=
  [quotedName schema, mark ".", quotedName table]

/-- The tokens of names with commas between them. -/
def listTokens (names : List String) : List Token :=
  (names.map quotedName).intersperse (mark ",")

/-- A token that writes a name is taken for it. -/
theorem identifier_of_name {t : Token} {name : String} (h : t.identifier? = some name)
    (ts : List Token) : identifier (t :: ts) = .ok name ts := by
  rw [identifier, h]

/-- A quoted name is taken as it is. -/
theorem identifier_quotedName (name : String) (ts : List Token) :
    identifier (quotedName name :: ts) = .ok name ts := rfl

/-- Two names with a point between them are the name of a table, when no point follows and the
schema's name has none. -/
theorem qualifiedName_of_names {schema table : Token} {schemaName tableName : String}
    (hschema : schema.identifier? = some schemaName) (htable : table.identifier? = some tableName)
    (h : '.' ∉ schemaName.toList) {t : Token} (ht : t.isMark "." = false) (ts : List Token) :
    qualifiedName (schema :: mark "." :: table :: t :: ts)
      = .ok (schemaName, tableName) (t :: ts) := by
  unfold qualifiedName
  rw [bind_of_ok (identifier_of_name hschema _), bind_of_ok (acceptMark_mark "." _),
    bind_of_ok (ensure_of_true rfl _ _), bind_of_ok (identifier_of_name htable _),
    bind_of_ok (startsWith_cons _ t ts), bind_of_ok (ensure_of_true (by simp [ht]) _ _),
    bind_of_ok (ensure_of_true (decide_eq_true h) _ _)]
  rfl

/-- A written name of a table is read with its schema, if no further point follows. -/
theorem qualifiedName_written {schema : String} (h : '.' ∉ schema.toList) (table : String)
    {t : Token} (ht : t.isMark "." = false) (ts : List Token) :
    qualifiedName (nameTokens schema table ++ t :: ts) = .ok (schema, table) (t :: ts) :=
  qualifiedName_of_names rfl rfl h ht ts

/-- Two names in a list have a comma between them. -/
theorem listTokens_cons_cons (name next : String) (names : List String) :
    listTokens (name :: next :: names)
      = quotedName name :: mark "," :: listTokens (next :: names) :=
  List.intersperse_cons_cons

/-- Names with commas between them are a first name and further names, up to the parenthesis. -/
theorem exists_moreNames (name : String) (names : List String) (ts : List Token) :
    ∃ rest, listTokens (name :: names) ++ mark ")" :: ts = quotedName name :: rest ∧
      moreNames "," rest = .ok names (mark ")" :: ts) := by
  induction names generalizing name with
  | nil =>
    refine ⟨mark ")" :: ts, rfl, ?_⟩
    rw [moreNames_cons]
    rfl
  | cons next names ih =>
    obtain ⟨rest, htokens, hmore⟩ := ih next
    refine ⟨mark "," :: quotedName next :: rest, ?_, ?_⟩
    · rw [listTokens_cons_cons, List.cons_append, List.cons_append, htokens]
    · rw [moreNames_cons, if_pos (isMark_mark ","), bind_of_ok (identifier_quotedName next rest),
        bind_of_ok hmore]
      rfl

/-- A written list of names is read as these names. -/
theorem nameList_written {names : List String} (hne : names ≠ []) (ts : List Token) :
    nameList (mark "(" :: (listTokens names ++ mark ")" :: ts)) = .ok names ts := by
  obtain ⟨name, names, rfl⟩ := List.exists_cons_of_ne_nil hne
  obtain ⟨rest, htokens, hmore⟩ := exists_moreNames name names ts
  unfold nameList
  rw [htokens, bind_of_ok (requireMark_mark "(" _), bind_of_ok (identifier_quotedName name rest),
    bind_of_ok hmore, bind_of_ok (requireMark_mark ")" _)]
  rfl

/-! ## Types -/

/-- Tokens with which no type goes on. -/
def EndsType (ts : List Token) : Prop :=
  ∀ t ∈ ts.head?, t.isMark "." = false ∧ t.isMark "(" = false ∧ t.isMark "[" = false ∧
    t.isKeywordOf typeContinuationWords = false

/-- A token with which no type goes on ends a type. -/
theorem endsType_cons {t : Token} (h : t.isMark "." = false ∧ t.isMark "(" = false ∧
    t.isMark "[" = false ∧ t.isKeywordOf typeContinuationWords = false) (ts : List Token) :
    EndsType (t :: ts) := by
  intro u hu
  rwa [← Option.some.inj hu]

/-- The tokens of numerals with commas between them. -/
def numeralTokens (numerals : List String) : List Token :=
  (numerals.map numeral).intersperse (mark ",")

/-- The tokens of a type after its word. -/
def suffixTokens (type : PlainType) : List Token :=
  (match type.arguments with
    | none => []
    | some numerals => mark "(" :: (numeralTokens numerals ++ [mark ")"])) ++
    (List.replicate type.brackets [mark "[", mark "]"]).flatten

/-- The texts of the tokens of a type after its word, with no text for the inside of brackets. -/
def suffixParts (type : PlainType) : List String :=
  (match type.arguments with
    | none => []
    | some numerals => "(" :: ((numeralTokens numerals).map typeText ++ [")"])) ++
    List.replicate type.brackets "[]"

/-- Two numerals have a comma between them. -/
theorem numeralTokens_cons_cons (digits next : String) (numerals : List String) :
    numeralTokens (digits :: next :: numerals)
      = numeral digits :: mark "," :: numeralTokens (next :: numerals) :=
  List.intersperse_cons_cons

/-- Between the parentheses of a type there are no parentheses. -/
theorem isFlat_of_mem_numeralTokens {numerals : List String} {t : Token}
    (h : t ∈ numeralTokens numerals) : t.isFlat = true := by
  induction numerals with
  | nil => cases h
  | cons digits numerals ih =>
    cases numerals with
    | nil =>
      obtain rfl := List.mem_singleton.1 h
      rfl
    | cons next numerals =>
      rw [numeralTokens_cons_cons] at h
      rcases List.mem_cons.1 h with rfl | h
      · rfl
      rcases List.mem_cons.1 h with rfl | h
      · decide
      · exact ih h

/-- Where no separator comes there are no further names. -/
theorem moreNames_of_ends {separator : String} {ts : List Token}
    (h : ∀ t ∈ ts.head?, t.isMark separator = false) : moreNames separator ts = .ok [] ts := by
  cases ts with
  | nil => rw [moreNames]
  | cons t ts => rw [moreNames_cons, if_neg (by simp [h t rfl])]

/-- Where no type goes on nothing follows the name of one. -/
theorem typeSuffix_of_ends {ts : List Token} (h : EndsType ts) : typeSuffix ts = .ok [] ts := by
  cases ts with
  | nil => rw [typeSuffix]
  | cons t ts =>
    obtain ⟨-, hopen, hbracket, hword⟩ := h t rfl
    rw [typeSuffix_cons, if_neg (by simp [hopen]), if_neg (by simp [hbracket]),
      if_neg (by simp [hword])]

/-- Brackets behind a type are read as array brackets. -/
theorem typeSuffix_brackets (count : Nat) {ts : List Token} (h : EndsType ts) :
    typeSuffix ((List.replicate count [mark "[", mark "]"]).flatten ++ ts)
      = .ok (List.replicate count "[]") ts := by
  induction count with
  | zero => exact typeSuffix_of_ends h
  | succ count ih =>
    have hbound : ∀ ts, arrayBound (mark "]" :: ts) = .ok () ts := fun ts => rfl
    rw [List.replicate_succ, List.flatten_cons, List.append_assoc, List.cons_append,
      List.cons_append, List.nil_append, typeSuffix_cons, if_neg (by decide),
      if_pos (isMark_mark "["), bind_of_ok (hbound _), bind_of_ok ih]
    rfl

/-- The arguments and brackets of a written type are read as their texts. -/
theorem typeSuffix_written (type : PlainType) {ts : List Token} (h : EndsType ts) :
    typeSuffix (suffixTokens type ++ ts) = .ok (suffixParts type) ts := by
  have hbrackets := typeSuffix_brackets type.brackets h
  unfold suffixTokens suffixParts
  cases type.arguments with
  | none => exact hbrackets
  | some numerals =>
    simp only [List.cons_append, List.append_assoc, List.nil_append]
    rw [typeSuffix_cons, if_pos (isMark_mark "("),
      arguments_closed (.of_flat fun t => isFlat_of_mem_numeralTokens), bind_of_ok hbrackets]
    simp [typeText, mark]
    rfl

/-- The texts of numerals with commas between them are put together to their text. -/
theorem toList_join_numeralTokens (numerals : List String) :
    (String.join ((numeralTokens numerals).map typeText)).toList
      = (",".intercalate numerals).toList := by
  induction numerals with
  | nil => rfl
  | cons digits numerals ih =>
    cases numerals with
    | nil => simp [numeralTokens, typeText, numeral]
    | cons next numerals =>
      rw [String.toList_join, String.toList_intercalate] at ih
      rw [numeralTokens_cons_cons]
      simp [String.toList_join, String.toList_intercalate, ih, typeText, numeral, mark]

/-- The parts of a type make up its text. -/
theorem join_suffixParts (type : PlainType) :
    String.join (type.word :: suffixParts type) = type.text := by
  refine String.toList_injective ?_
  unfold suffixParts PlainType.text
  cases type.arguments with
  | none => simp [String.toList_join]
  | some numerals =>
    have hnumerals := toList_join_numeralTokens numerals
    rw [String.toList_join] at hnumerals
    simp [String.toList_join, hnumerals]

/-- A written type is read as its text. -/
theorem columnType_written (name : String) (type : PlainType) {ts : List Token} (h : EndsType ts) :
    columnType name (bareWord type.word :: (suffixTokens type ++ ts)) = .ok type.text ts := by
  have hstart : ∀ t ∈ (suffixTokens type ++ ts).head?, t.isMark "." = false := by
    unfold suffixTokens
    cases type.arguments with
    | some numerals =>
      rintro t ⟨⟩
      decide
    | none =>
      cases type.brackets with
      | zero => exact fun t ht => (h t ht).1
      | succ count =>
        rintro t ⟨⟩
        decide
  have hword : (bareWord type.word).isKeywordOf typeEndWords = false := by
    simpa [bareWord, Token.isKeywordOf, Token.keyword?] using type.upper_word
  have htext : typeText (bareWord type.word) = type.word := type.lower_word
  rw [columnType_cons, if_pos (.inr ⟨rfl, hword⟩), bind_of_ok (moreNames_of_ends hstart),
    bind_of_ok (typeSuffix_written type h), htext, pathText_nil, List.singleton_append,
    join_suffixParts]
  rfl

/-! ## Columns -/

/-- The tokens of what a column says after its type. -/
def modifierTokens (nullable hasDefault : Bool) : List Token :=
  (if nullable then [] else [bareWord "NOT", bareWord "NULL"]) ++
    (if hasDefault then [bareWord "DEFAULT", numeral "0"] else [])

/-- The tokens of a column with a type. -/
def columnTokens (c : Column) (type : PlainType) : List Token :=
  quotedName c.name :: bareWord type.word ::
    (suffixTokens type ++ modifierTokens c.nullable c.hasDefault)

/-- A token that ends an element of a table as it is written. -/
def EndsElement (t : Token) : Prop :=
  t = mark "," ∨ t = mark ")"

/-- What ends a written element of a table ends an element. -/
theorem EndsElement.ends {t : Token} (h : EndsElement t) : t.Ends := by
  rcases h with rfl | rfl
  · exact .inl (by decide)
  · exact .inr (by decide)

/-- An element without marks goes up to the token that ends it. -/
theorem element_written {as : List Token} (h : ∀ t ∈ as, t.kind ≠ .punctuation) {t : Token}
    (ht : EndsElement t) (ts : List Token) : element 0 (as ++ t :: ts) = .ok as (t :: ts) :=
  element_outside (.of_flat fun u hu => Token.isFlat_of_kind (h u hu))
    (fun u hu => Token.isMark_of_kind (h u hu) ",") ht.ends ts

/-- What a written column says after its type holds no punctuation. -/
theorem kind_of_mem_modifierTokens : ∀ {nullable hasDefault : Bool} {t : Token},
    t ∈ modifierTokens nullable hasDefault → t.kind ≠ .punctuation := by
  decide

/-- The words after a type tell whether the column is nullable and has a default. -/
theorem modifierTokens_tell : ∀ nullable hasDefault : Bool,
    (!saysNotNull (modifierTokens nullable hasDefault)) = nullable ∧
      (modifierTokens nullable hasDefault).any (·.isKeyword "DEFAULT") = hasDefault := by
  decide

/-- A column is read as it is written, up to the token that ends it. -/
theorem column_written {c : Column} {type : PlainType} (htype : c.type = type.text) {t : Token}
    (ht : EndsElement t) (ts : List Token) :
    column (columnTokens c type ++ t :: ts) = .ok c (t :: ts) := by
  obtain ⟨name, text, nullable, hasDefault⟩ := c
  obtain rfl : text = type.text := htype
  have hends : EndsType (modifierTokens nullable hasDefault ++ t :: ts) := by
    cases nullable <;> cases hasDefault
    · exact endsType_cons (by decide) _
    · exact endsType_cons (by decide) _
    · rcases ht with rfl | rfl <;> exact endsType_cons (by decide) _
    · exact endsType_cons (by decide) _
  obtain ⟨hnullable, hdefault⟩ := modifierTokens_tell nullable hasDefault
  unfold column columnDefinition
  rw [columnTokens, List.cons_append, List.cons_append, List.append_assoc,
    bind_of_ok (identifier_quotedName name _), bind_of_ok (columnType_written name type hends),
    bind_of_ok (element_written (fun _ => kind_of_mem_modifierTokens) ht ts), hnullable, hdefault]
  rfl

/-- A column stands first in a body, and the body goes on after it. -/
theorem tableBody_column (table : String) {c : Column} {type : PlainType}
    (htype : c.type = type.text) {t : Token} (ht : EndsElement t) (ts : List Token) :
    tableBody table (columnTokens c type ++ t :: ts)
      = (tableBody table >>= fun cs => pure (c :: cs)) (t :: ts) := by
  have hcolumn := column_written htype ht ts
  have hmark : ∀ value, ¬ (quotedName c.name).isMark value = true := fun _ => Bool.false_ne_true
  have hword : ¬ (quotedName c.name).isKeywordOf tableConstraintWords = true := Bool.false_ne_true
  rw [columnTokens, List.cons_append] at hcolumn ⊢
  rw [tableBody_cons, if_neg (hmark ")"), if_neg (hmark ","), if_neg hword, bind_of_ok hcolumn]

end Statement

/-! ## Spelling -/

namespace Spells

open SchemaCanvas.Sql.Statement

variable {cs : List Char} {ts : List Token}

/-- A blank in front spells nothing. -/
theorem space (h : Spells cs ts) : Spells (" ".toList ++ cs) ts :=
  blank (show Text.isBlank ' ' = true by decide) h

/-- A blank keeps what follows it apart. -/
theorem apart_space (cs : List Char) : Apart (" ".toList ++ cs) :=
  apart_cons ' ' (by decide) cs

/-- A comma in front spells its token. -/
theorem comma (h : Spells cs ts) : Spells (",".toList ++ cs) (Sql.mark "," :: ts) :=
  mark "," (by decide) h

/-- The end of a statement, with the line feed after it. -/
theorem semicolon (h : Spells cs ts) : Spells (";\n".toList ++ cs) (Sql.mark ";" :: ts) :=
  mark ";" (by decide) (blank (show Text.isBlank '\n' = true by decide) h)

/-- A semicolon keeps what follows it apart. -/
theorem apart_semicolon (cs : List Char) : Apart (";\n".toList ++ cs) :=
  apart_cons ';' (by decide) ('\n' :: cs)

/-- The written name of a table spells its tokens, unless a double quote follows. -/
theorem writtenName (t : Table) (hq : cs.head? ≠ some '"') (h : Spells cs ts) :
    Spells (t.writtenName.toList ++ cs) (nameTokens t.schema t.name ++ ts) := by
  have hstart : ∀ cs, (".".toList ++ cs).head? ≠ some '"' := fun cs =>
    show some '.' ≠ some '"' by decide
  have hpoint := mark "." (by decide) (quotedName t.name hq h)
  have hschema := quotedName t.schema (hstart _) hpoint
  simpa [Table.writtenName, nameTokens] using hschema

/-- Written names in parentheses spell the tokens of a list of names. -/
theorem quoteNames (names : List String) (h : Spells cs ts) :
    Spells ((Sql.quoteNames names).toList ++ cs)
      (Sql.mark "(" :: (listTokens names ++ Sql.mark ")" :: ts)) := by
  have hclose := mark ")" (by decide) h
  have hnames := intercalate quoteName Sql.quotedName ", "
    (fun _ => apart_cons ',' (by decide) _) (fun h => comma (space h))
    (fun name (_ : name ∈ names) _ _ ha h => quotedName name ha.head?_ne h)
    (apart_cons ')' (by decide) cs) hclose
  have hopen := mark "(" (by decide) hnames
  simpa [Sql.quoteNames, listTokens] using hopen

/-- Written numerals spell their tokens, with a comma between each two. -/
theorem numerals {numerals : List String}
    (hnumerals : ∀ digits ∈ numerals, isNumeral digits = true) (ha : Apart cs) (h : Spells cs ts) :
    Spells ((",".intercalate numerals).toList ++ cs) (numeralTokens numerals ++ ts) := by
  have hspells := intercalate id Sql.numeral "," (fun _ => apart_cons ',' (by decide) _) comma
    (fun digits hd _ _ ha h => numeral digits (hnumerals digits hd) ha h) ha h
  rwa [List.map_id] at hspells

/-- Written array brackets spell their tokens. -/
theorem brackets (count : Nat) (h : Spells cs ts) :
    Spells ((String.join (List.replicate count "[]")).toList ++ cs)
      ((List.replicate count [Sql.mark "[", Sql.mark "]"]).flatten ++ ts) := by
  induction count with
  | zero => exact h
  | succ count ih =>
    have hopen := mark "[" (by decide) (mark "]" (by decide) ih)
    simpa [List.replicate_succ, String.toList_join] using hopen

/-- Array brackets go on with no word and no numeral. -/
theorem apart_brackets (count : Nat) (ha : Apart cs) :
    Apart ((String.join (List.replicate count "[]")).toList ++ cs) := by
  cases count with
  | zero => exact ha
  | succ count =>
    rw [List.replicate_succ, String.toList_join, List.flatMap_cons]
    exact apart_cons '[' (by decide) _

/-- A written type spells its word and the tokens after it. -/
theorem type (type : PlainType) (ha : Apart cs) (h : Spells cs ts) :
    Spells (type.text.toList ++ cs)
      (Sql.bareWord type.word :: (suffixTokens type ++ ts)) := by
  have hbrackets := brackets type.brackets h
  have hapart := apart_brackets type.brackets ha
  unfold PlainType.text suffixTokens
  cases harguments : type.arguments with
  | none =>
    have hword := bareWord type.word type.isBareWord_word hapart hbrackets
    simpa using hword
  | some numerals =>
    have hnumerals := Spells.numerals (type.isNumeral_arguments numerals harguments)
      (apart_cons ')' (by decide) _) (mark ")" (by decide) hbrackets)
    have hopen := mark "(" (by decide) hnumerals
    have hword := bareWord type.word type.isBareWord_word (apart_cons '(' (by decide) _) hopen
    simpa using hword

/-- What stands after the type of a column. -/
theorem modifiers (nullable hasDefault : Bool) (ha : Apart cs) (h : Spells cs ts) :
    Apart ((if nullable then "" else " NOT NULL").toList ++
        ((if hasDefault then " DEFAULT 0" else "").toList ++ cs)) ∧
      Spells ((if nullable then "" else " NOT NULL").toList ++
        ((if hasDefault then " DEFAULT 0" else "").toList ++ cs))
        (modifierTokens nullable hasDefault ++ ts) := by
  have hdefault : Spells (" DEFAULT 0".toList ++ cs)
      ([Sql.bareWord "DEFAULT", Sql.numeral "0"] ++ ts) :=
    space (bareWord "DEFAULT" (by decide) (apart_space _) (space (numeral "0" (by decide) ha h)))
  have hnotNull : ∀ {cs ts}, Apart cs → Spells cs ts → Spells (" NOT NULL".toList ++ cs)
      ([Sql.bareWord "NOT", Sql.bareWord "NULL"] ++ ts) := fun ha h =>
    space (bareWord "NOT" (by decide) (apart_space _) (space (bareWord "NULL" (by decide) ha h)))
  cases nullable <;> cases hasDefault
  · exact ⟨apart_space _, hnotNull ha h⟩
  · exact ⟨apart_space _, hnotNull (apart_space _) hdefault⟩
  · exact ⟨ha, h⟩
  · exact ⟨apart_space _, hdefault⟩

/-- A written column spells its tokens. -/
theorem column {c : Column} {type : PlainType} (htype : c.type = type.text) (ha : Apart cs)
    (h : Spells cs ts) : Spells (c.written.toList ++ cs) (columnTokens c type ++ ts) := by
  obtain ⟨hapart, hmodifiers⟩ := modifiers c.nullable c.hasDefault ha h
  have htext := space (Spells.type type hapart hmodifiers)
  have hname := quotedName c.name (apart_space _).head?_ne htext
  simpa [Column.written, columnTokens, htype] using hname

end Spells

end Sql

end SchemaCanvas
