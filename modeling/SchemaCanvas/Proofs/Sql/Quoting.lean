import SchemaCanvas.Proofs.Sql.Comment

/-!
# Quoted text is one token

A text is quoted by writing its own quotes twice and putting one at each end. The scanner takes the
whole of it as one piece, whatever the characters between the quotes are, and goes on behind it as
if the script started there (`Lexeme.Encloses.scan_quote`); the token of the piece says the text as
it was before (`Lexeme.Encloses.meaning?_quote`). A quote that follows would make a pair with the
last one, so none may.

This holds of names in double quotes and of strings in single quotes (`Lexeme.Encloses`).
-/

namespace SchemaCanvas.Sql

namespace Lexeme

/-- The two quotes, with the form of the pieces between them and the kind of their tokens. -/
inductive Encloses : Char → Form → Token.Kind → Prop
  | name : Encloses '"' .quotedName .quoted
  | string : Encloses '\'' .quotedString .string

/-- Taking quotes off a text and making doubled ones single undoes quoting. -/
theorem unquote_quote (q : Char) (cs : List Char) : unquote q (Text.quote q cs) = cs := by
  have htail : (Text.quote q cs).tail = Text.double q cs ++ [q] := rfl
  rw [unquote, htail, List.getLast?_concat, if_pos rfl, List.dropLast_concat, Text.collapse_double]

/-- A quoted text is a quote, the text with its quotes doubled, and a quote. -/
theorem quote_append (q : Char) (cs rest : List Char) :
    Text.quote q cs ++ rest = q :: (Text.double q cs ++ q :: rest) := by
  rw [Text.quote, List.append_assoc, List.cons_append, List.singleton_append]

/-- The piece between quotes ends with the last quote, although quotes may stand inside. -/
theorem quoted_double (form : Form) (q : Char) (cs rest : List Char) (hrest : rest.head? ≠ some q) :
    quoted form q (Text.double q cs ++ q :: rest) = (⟨form, Text.quote q cs⟩, rest) := by
  rw [quoted, Text.closeQuote_double q cs rest hrest]
  rfl

variable {q : Char} {form : Form} {kind : Token.Kind}

namespace Encloses

/-- At a quote a quoted form is taken. -/
theorem next_eq_quoted (h : Encloses q form kind) (cs : List Char) :
    next q cs = quoted form q cs := by
  cases h <;> rfl

/-- What a quoted text says is the text. -/
theorem meaning?_quote (h : Encloses q form kind) (cs : List Char) :
    (⟨form, Text.quote q cs⟩ : Lexeme).meaning? = some (kind, cs) := by
  cases h with
  | name => rw [meaning?, unquote_quote]
  | string => rw [meaning?, unquote_quote]

/-- A quoted text is taken as a whole when no further quote follows it. -/
theorem next_quote (h : Encloses q form kind) (cs rest : List Char)
    (hrest : rest.head? ≠ some q) :
    next q (Text.double q cs ++ q :: rest) = (⟨form, Text.quote q cs⟩, rest) := by
  rw [h.next_eq_quoted, quoted_double form q cs rest hrest]

/-- Quoted text is one piece, and the script goes on behind it as if it started there. -/
theorem scan_quote (h : Encloses q form kind) (cs rest : List Char) (hrest : rest.head? ≠ some q) :
    scan (Text.quote q cs ++ rest) = ⟨form, Text.quote q cs⟩ :: scan rest := by
  rw [quote_append, scan_cons, h.next_quote cs rest hrest]

end Encloses

end Lexeme

namespace Script

/-- A script that starts with a quoted text starts with a token that says this text, and goes on
with the tokens of the rest. -/
theorem contents_of_encloses {q : Char} {form : Lexeme.Form} {kind : Token.Kind}
    (h : Lexeme.Encloses q form kind) (s rest : String) (hrest : rest.toList.head? ≠ some q) :
    (ofText (String.ofList (Text.quote q s.toList) ++ rest)).tokens.map Token.content
      = (kind, s) :: (ofText rest).tokens.map Token.content := by
  have hcontent : (⟨form, Text.quote q s.toList⟩ : Lexeme).content? = some (kind, s) := by
    rw [Lexeme.content?, h.meaning?_quote, Option.map_some, String.ofList_toList]
  rw [contents_ofText, contents_ofText, String.toList_append, String.toList_ofList,
    h.scan_quote s.toList rest.toList hrest, List.filterMap_cons_some hcontent]

/-- Quoted text is one token that says the text, and the tokens after it are those of what follows,
whatever the text is. -/
theorem contents_quote (s rest : String) :
    (rest.toList.head? ≠ some '"' →
      (ofText (String.ofList (Text.quote '"' s.toList) ++ rest)).tokens.map Token.content
        = (.quoted, s) :: (ofText rest).tokens.map Token.content) ∧
    (rest.toList.head? ≠ some '\'' →
      (ofText (String.ofList (Text.quote '\'' s.toList) ++ rest)).tokens.map Token.content
        = (.string, s) :: (ofText rest).tokens.map Token.content) :=
  ⟨contents_of_encloses .name s rest, contents_of_encloses .string s rest⟩

/-- Marks of every other kind stand inside, and the other quote follows. -/
theorem contents_quote_marks :
    (ofText "\"'--\"\"/*;)\n$a$(\"'b'").tokens.map Token.content
        = [(.quoted, "'--\"/*;)\n$a$("), (.string, "b")] ∧
      (ofText "'''--\"/*;)\n$a$('\"b\"").tokens.map Token.content
        = [(.string, "'--\"/*;)\n$a$("), (.quoted, "b")] := by
  have hname : (ofText "\"b\"").tokens.map Token.content = [(.quoted, "b")] := by decide +kernel
  have hstring : (ofText "'b'").tokens.map Token.content = [(.string, "b")] := by decide +kernel
  have hdouble : "\"'--\"\"/*;)\n$a$(\"'b'"
      = String.ofList (Text.quote '"' "'--\"/*;)\n$a$(".toList) ++ "'b'" := by decide +kernel
  have hsingle : "'''--\"/*;)\n$a$('\"b\""
      = String.ofList (Text.quote '\'' "'--\"/*;)\n$a$(".toList) ++ "\"b\"" := by decide +kernel
  constructor
  · rw [hdouble, (contents_quote "'--\"/*;)\n$a$(" "'b'").1 (by decide), hstring]
  · rw [hsingle, (contents_quote "'--\"/*;)\n$a$(" "\"b\"").2 (by decide), hname]

end Script

end SchemaCanvas.Sql
