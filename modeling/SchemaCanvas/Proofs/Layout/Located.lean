import SchemaCanvas.Layout.Block
import SchemaCanvas.Proofs.Sql.Comment

/-!
# The block and the comments of a script

The block of a text is found by its opening (`Block.opening?_eq_some_iff`), the comments of a script
one piece after another. Both end at the first closing mark, so the block is a whole comment
(`Block.isComment_of_locate`); and where the script has a piece that starts with the block, that
piece is the block. Another comment in its place leaves the pieces before and after it
(`Block.scan_exchange`).
-/

namespace SchemaCanvas.Block

open SchemaCanvas.Sql (Lexeme)

/-- An opening is a comment's opening mark, blanks and the marker, if no word goes on behind it. -/
theorem opening?_eq_some_iff {cs opening rest : List Char} :
    opening? cs = some (opening, rest) ↔
      ∃ blanks, (∀ c ∈ blanks, Text.isBlank c = true) ∧
        opening = '/' :: '*' :: (blanks ++ marker) ∧ cs = opening ++ rest ∧
        rest.head?.any Text.isWord = false := by
  constructor
  · intro h
    have hcs := opening?_eq_some h
    simp only [opening?, bind, Option.bind_eq_some_iff] at h
    obtain ⟨body, -, rest', -, h⟩ := h
    split at h
    · cases h
    · next hword =>
      obtain ⟨hopening, rfl⟩ := Prod.mk.inj (Option.some.inj h)
      exact ⟨body.takeWhile Text.isBlank, List.all_eq_true.1 List.all_takeWhile, hopening.symm,
        hcs, Bool.eq_false_iff.2 hword⟩
  · rintro ⟨blanks, hblanks, rfl, rfl, hword⟩
    have hopen : after? commentOpen ('/' :: '*' :: (blanks ++ marker) ++ rest)
        = some (blanks ++ (marker ++ rest)) :=
      after?_eq_some.2 (by simp [commentOpen])
    have hstop : ∀ c ∈ (marker ++ rest).head?, Text.isBlank c = false := by
      intro c hc
      rw [← Option.some.inj hc]
      decide
    have hmarker : after? marker (marker ++ rest) = some rest := after?_eq_some.2 rfl
    simp only [opening?, bind, hopen, Option.bind_some, Text.dropWhile_run hblanks hstop,
      Text.takeWhile_run hblanks hstop, hmarker, hword, Bool.false_eq_true, if_false]
    rfl

/-- Between the mark that opens a comment and the marker an opening has blanks only. -/
theorem findOpening_shape {cs before opening rest : List Char}
    (h : findOpening cs = some (before, opening, rest)) :
    ∃ blanks, opening = '/' :: '*' :: (blanks ++ marker) ∧
      ∀ c ∈ blanks, Text.isBlank c = true := by
  obtain ⟨blanks, hblanks, hopening, -, -⟩ :=
    opening?_eq_some_iff.1 (opening?_of_findOpening h)
  exact ⟨blanks, hopening, hblanks⟩

/-- A text without the marker has no block. -/
theorem locate_eq_none {cs : List Char} (h : ¬ marker <:+: cs) : locate cs = none := by
  cases hf : findOpening cs with
  | none => simp [locate, bind, hf]
  | some found =>
    obtain ⟨before, opening, rest⟩ := found
    obtain ⟨blanks, hopening, -⟩ := findOpening_shape hf
    refine absurd ⟨before ++ '/' :: '*' :: blanks, rest, ?_⟩ h
    rw [findOpening_eq_some hf, hopening]
    simp

/-- What stands between the marks of a block completes no closing mark, also together with the star
of the opening mark and the star of the closing one. -/
theorem exists_inside {cs : List Char} {l : Located} (h : locate cs = some l) :
    ∃ inside, l.block = '/' :: '*' :: (inside ++ commentClose) ∧
      ¬ commentClose <:+: '*' :: (inside ++ ['*']) := by
  simp only [locate, bind, Option.bind_eq_some_iff, pure, Option.some.injEq] at h
  obtain ⟨⟨before, opening, rest⟩, hf, ⟨content, after⟩, hm, rfl⟩ := h
  obtain ⟨blanks, rfl, hblanks⟩ := findOpening_shape hf
  have hmem : '*' ∉ blanks ++ marker := by
    rw [List.mem_append, not_or]
    exact ⟨fun hm => absurd (hblanks _ hm) (by decide), by decide⟩
  have hmark : Text.findMark commentClose (blanks ++ marker ++ rest) = _ :=
    Text.findMark_append_of_not_mem hmem rest
  rw [show ['*', '/'] = commentClose from rfl, hm] at hmark
  refine ⟨blanks ++ marker ++ content, by simp [Located.block], fun hi => ?_⟩
  rcases List.infix_cons_iff.1 hi with hp | hi
  · -- The opening mark's star is followed by a blank or by the marker, never by a slash.
    have hslash : (blanks ++ marker ++ content ++ ['*']).head? = some '/' := by
      obtain ⟨tail, ht⟩ := hp
      rw [← (List.cons.inj ht).2]
      rfl
    cases blanks with
    | nil => exact absurd (Option.some.inj hslash) (by decide)
    | cons c blanks =>
      obtain rfl : c = '/' := Option.some.inj hslash
      exact absurd (hblanks _ List.mem_cons_self) (by decide)
  · exact ((Text.findMark_eq_some_iff (by decide)).1 hmark).2 hi

/-- A block is a whole comment. -/
theorem isComment_of_locate {cs : List Char} {l : Located} (h : locate cs = some l) :
    Lexeme.IsComment l.block := by
  obtain ⟨inside, hblock, hclose⟩ := exists_inside h
  exact ⟨inside, hblock, fun hi => hclose (hi.trans (List.suffix_cons ..).isInfix)⟩

/-- Where a script has a piece that starts where its block starts, and the piece is a comment. -/
def Commented (cs : List Char) (l : Located) : Prop :=
  ∃ ls m ms, Lexeme.scan cs = ls ++ m :: ms ∧ (ls.flatMap Lexeme.text).length = l.start ∧
    m.form = .blockComment

/-- The pieces of a script around a block that one of its pieces starts with: they are the same
around every other comment in the place of the block. -/
theorem scan_exchange {cs : List Char} {l : Located} (h : locate cs = some l)
    (hc : Commented cs l) {comment : List Char} (hcomment : Lexeme.IsComment comment) :
    ∃ ls, Lexeme.scan cs = ls ++ ⟨.blockComment, l.block⟩ :: Lexeme.scan l.after ∧
      Lexeme.scan (l.before ++ comment ++ l.after)
        = ls ++ ⟨.blockComment, comment⟩ :: Lexeme.scan l.after := by
  obtain ⟨ls, m, ms, hscan, hlen, -⟩ := hc
  have hcs : cs = l.before ++ (l.block ++ l.after) := by
    rw [← text_locate h, Located.text, List.append_assoc]
  have hls : ls.flatMap Lexeme.text = l.before := by
    have htext := Lexeme.flatMap_text_scan cs
    rw [hscan, List.flatMap_append, hcs] at htext
    exact (List.append_inj htext hlen).1
  have around : ∀ {comment'}, Lexeme.IsComment comment' →
      Lexeme.scan (l.before ++ (comment' ++ l.after))
        = ls ++ ⟨.blockComment, comment'⟩ :: Lexeme.scan l.after := by
    rintro comment' hcomment'
    rw [← Lexeme.scan_comment hcomment']
    obtain ⟨inside', hshape', -⟩ := hcomment'
    obtain ⟨inside, hshape, -⟩ := isComment_of_locate h
    rw [hshape', List.cons_append]
    have hold : Lexeme.scan (l.before ++ '/' :: ('*' :: (inside ++ ['*', '/']) ++ l.after))
        = ls ++ m :: ms := by
      rw [← List.cons_append, ← hshape, ← hcs, hscan]
    exact Lexeme.scan_slash hold hls _
  exact ⟨ls, by rw [hcs]; exact around (isComment_of_locate h),
    by rw [List.append_assoc]; exact around hcomment⟩

end SchemaCanvas.Block
