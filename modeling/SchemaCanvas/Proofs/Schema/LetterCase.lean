import Mathlib
import SchemaCanvas.Proofs.Schema.Alike

/-!
# A schema does not depend on letter case and layout

A bare word is compared in capitals and taken over in small letters, so the case in which its
letters are written is lost wherever it is read, and no decision looks at a token's place. Two
scripts whose tokens are the same but for the letter case of bare words and for their places have
the same schema and the same kinds of warnings (`Schema.ofTokens_sameLetters`).
-/

namespace SchemaCanvas

/-- Texts with the same small letters have the same capitals. -/
theorem Text.upper_eq_of_lower_eq {a b : String} (h : lower a = lower b) : upper a = upper b := by
  have hupper : ∀ s, upper s = upper (lower s) := by
    intro s
    simp [upper, lower, Function.comp_def, Char.toUpper_toLower_eq_toUpper]
  rw [hupper a, hupper b, h]

namespace Sql

/-- Whether two tokens are the same but for the case of the ASCII letters of a bare word. The places
where they stand are not compared. -/
def Token.SameLetters (t u : Token) : Prop :=
  t.kind = u.kind ∧
    if t.kind = .word then Text.lower t.value = Text.lower u.value else t.value = u.value

instance (t u : Token) : Decidable (t.SameLetters u) :=
  inferInstanceAs (Decidable (_ ∧ _))

/-- No parser tells tokens with the same letters apart. -/
theorem Token.SameLetters.alike {t u : Token} (h : t.SameLetters u) : t.Alike u := by
  obtain ⟨hkind, hvalue⟩ := h
  by_cases hword : t.kind = .word
  · rw [if_pos hword] at hvalue
    have huword : u.kind = .word := hkind ▸ hword
    refine ⟨hkind, ?_, ?_⟩
    · simp only [Token.keyword?, hword, huword, Text.upper_eq_of_lower_eq hvalue]
    · simp only [Statement.typeText, hword, huword, hvalue]
  · rw [if_neg hword] at hvalue
    refine ⟨hkind, ?_, ?_⟩
    · rw [Token.keyword?, Token.keyword?, hkind, hvalue]
    · rw [Statement.typeText, Statement.typeText, hkind, hvalue]

/-- Tokens with the same letters, and any two causes of failures: what was found in place of what
was wanted is told with its letters as they are written. -/
def likeLetters : Likeness where
  token := Token.SameLetters
  cause _ _ := True
  alike h := h.alike
  cause_refl _ := trivial
  expected _ _ := trivial

end Sql

open Sql

namespace Schema

/-- Scripts whose tokens have the same letters have the same schema, and the same kinds of warnings
in the same order. -/
theorem ofTokens_sameLetters {ts us : List Token} (h : List.Forall₂ Token.SameLetters ts us) :
    (ofTokens ts).1 = (ofTokens us).1 ∧
      (ofTokens ts).2.map Warning.kind = (ofTokens us).2.map Warning.kind := by
  obtain ⟨hstatements, hwarnings⟩ := Likeness.collect_alike (L := likeLetters) h
  obtain ⟨hschema, hbuilt⟩ := ofStatements_same hstatements
  refine ⟨hschema, ?_⟩
  have hread : (Statement.collect ts).2.map Warning.kind
      = (Statement.collect us).2.map Warning.kind := by
    rw [← List.forall₂_eq_eq_eq, List.forall₂_map_left_iff, List.forall₂_map_right_iff]
    exact hwarnings.imp fun w w' hw => hw.1
  have hkinds : (ofStatements (Statement.collect ts).1).2.map Warning.kind
      = (ofStatements (Statement.collect us).1).2.map Warning.kind := by
    have := congrArg (List.map Warning.kind) hbuilt
    rwa [List.map_map, List.map_map] at this
  rw [ofTokens, ofTokens, List.map_append, List.map_append, hread, hkinds]

/-! A script in capitals and small letters, in one line and in several, with a type whose words are
folded, a key over an unknown column and a statement that cannot be understood. -/

/-- Two scripts that differ in the letter case of their bare words have one schema, and warnings of
the same kinds. -/
theorem ofTokens_shoutedScript :
    let plain := (Script.ofText
      ("create table s.t (id numeric(10, 2) not null default x, \"A\" time with time zone); " ++
        "alter table only s.t add primary key (id, nope); create table t (a int);")).tokens
    let shouted := (Script.ofText
      ("CREATE TABLE S.T\n (Id NUMERIC(10,2) Not Null Default X,\n \"A\" Time With Time Zone);\n" ++
        "ALTER TABLE Only S.t ADD Primary KEY (ID, Nope);\nCREATE TABLE T (A INT);")).tokens
    List.Forall₂ Token.SameLetters plain shouted ∧
      (ofTokens plain).1 = (ofTokens shouted).1 ∧
      (ofTokens plain).2.map Warning.kind = (ofTokens shouted).2.map Warning.kind ∧
      (ofTokens shouted).2.map Warning.kind = [.syntactic, .resolution] := by
  intro plain shouted
  have h : List.Forall₂ Token.SameLetters plain shouted := by decide +kernel
  obtain ⟨hschema, hkinds⟩ := ofTokens_sameLetters h
  exact ⟨h, hschema, hkinds, by decide +kernel⟩

end Schema

end SchemaCanvas
