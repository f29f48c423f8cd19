import SchemaCanvas.Proofs.Layout.Located
import SchemaCanvas.Proofs.Layout.Written
import SchemaCanvas.Proofs.Schema.Alike

/-!
# Saving a layout keeps the script

A layout is written into the text of a script, into the place of its block or before everything
else. The block is a comment, so the script has the same tokens afterwards, and the same schema
(`Block.save_keeps_script`).
-/

namespace SchemaCanvas.Block

open Sql

/-- A whole comment and two line feeds before a script bring no token. -/
theorem contents_prepend {comment : List Char} (h : Lexeme.IsComment comment) (cs : List Char) :
    (Lexeme.scan (comment ++ '\n' :: '\n' :: cs)).filterMap Lexeme.content?
      = (Lexeme.scan cs).filterMap Lexeme.content? := by
  rw [Lexeme.scan_comment h]
  exact (Lexeme.contents_blank (by decide) _).trans (Lexeme.contents_blank (by decide) _)

/-- A whole comment in the place of the block of a script, or before a script without one, leaves
what the tokens say. -/
theorem contents_splice {cs comment : List Char} (h : Lexeme.IsComment comment)
    (hc : ∀ l, locate cs = some l → Commented cs l) :
    (Lexeme.scan (splice cs comment)).filterMap Lexeme.content?
      = (Lexeme.scan cs).filterMap Lexeme.content? := by
  rw [splice]
  cases hl : locate cs with
  | none => exact contents_prepend h cs
  | some l =>
    obtain ⟨ls, hold, hnew⟩ := scan_exchange hl (hc l hl) h
    dsimp only
    rw [hold, hnew, List.filterMap_append, List.filterMap_append]
    rfl

/-- A saved script says what it said before. -/
theorem contents_save {text saved : String} {diagrams : DiagramSet}
    (h : save text diagrams = .ok saved) (hd : ∀ d ∈ diagrams.values, d.Avoids commentClose)
    (hc : ∀ l, locate text.toList = some l → Commented text.toList l) :
    (Script.ofText saved).tokens.map Token.content
      = (Script.ofText text).tokens.map Token.content := by
  obtain ⟨block, hblock, hsaved⟩ := except_bind_eq_ok.1 h
  rw [Script.contents_ofText, Script.contents_ofText, ← Except.ok.inj hsaved, spliceText,
    String.toList_ofList]
  exact contents_splice (isComment_of_write hblock hd) hc

/-- A saved script has the tokens that it had before, in other places, and so the same schema and
the same warnings but for their lines. -/
theorem save_keeps_script {text saved : String} {diagrams : DiagramSet}
    (h : save text diagrams = .ok saved)
    (hd : ∀ d ∈ diagrams.values, d.Avoids commentClose)
    (hc : ∀ l, locate text.toList = some l → Commented text.toList l) :
    (Script.ofText saved).tokens.map Token.content = (Script.ofText text).tokens.map Token.content ∧
      (Schema.ofText saved).1 = (Schema.ofText text).1 ∧
      (Schema.ofText saved).2.map Warning.withoutLine
        = (Schema.ofText text).2.map Warning.withoutLine := by
  have hcontents := contents_save h hd hc
  exact ⟨hcontents, Schema.ofTokens_of_contents hcontents⟩

/-- A script with a block between two tokens, behind a name that holds the start of a comment. -/
def sampleScript : String :=
  "CREATE TABLE s.t (\"a\"\"/*\" int /* @erd-pets\n[main]\n*/);"

/-- A table at a place, and a schema whose name must be quoted. -/
def sampleDiagrams : DiagramSet :=
  .ofDiagrams [⟨"main", [.table "s.t" (some (.whole 3)) (some (.whole (-4))), .wildcard "x*"]⟩]

/-- The script with the diagrams in its block. -/
def sampleSaved : String :=
  "CREATE TABLE s.t (\"a\"\"/*\" int /* @erd-pets\n[main]\ns.t 3 -4\n\"x*\".*\n*/);"

/-- A save into the script keeps its tokens, its schema and its warnings up to their lines. -/
theorem save_sampleScript_keeps_script :
    save sampleScript sampleDiagrams = .ok sampleSaved ∧
      (Script.ofText sampleSaved).tokens.map Token.content
        = (Script.ofText sampleScript).tokens.map Token.content ∧
      (Schema.ofText sampleSaved).1 = (Schema.ofText sampleScript).1 ∧
      (Schema.ofText sampleSaved).2.map Warning.withoutLine
        = (Schema.ofText sampleScript).2.map Warning.withoutLine := by
  have hsave : save sampleScript sampleDiagrams = .ok sampleSaved := by decide +kernel
  have hblock : locate sampleScript.toList = some ⟨"CREATE TABLE s.t (\"a\"\"/*\" int ".toList,
      "/* @erd-pets".toList, "\n[main]\n".toList, ");".toList⟩ := by decide +kernel
  refine ⟨hsave, save_keeps_script hsave (by decide +kernel) fun l hl => ?_⟩
  obtain rfl := Option.some.inj (hblock.symm.trans hl)
  exact ⟨(Lexeme.scan sampleScript.toList).take 13,
    ⟨.blockComment, "/* @erd-pets\n[main]\n*/".toList⟩,
    (Lexeme.scan sampleScript.toList).drop 14, by decide +kernel, by decide +kernel, rfl⟩

end SchemaCanvas.Block
