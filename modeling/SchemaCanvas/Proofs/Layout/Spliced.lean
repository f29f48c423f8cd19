import SchemaCanvas.Proofs.Layout.RoundTrip
import SchemaCanvas.Proofs.Layout.Saving

/-!
# Blocks that take the place of others

A splice puts a block where the first one of a text stands and leaves what stands around it
(`Block.around`). A whole block is found again where it has been put (`Block.locate_splice`): the
text before it opens no block, and does not begin to do so when a comment follows
(`Block.Unopened`). So a second splice puts its block in the place of the first one
(`Block.splice_splice`), and finding and putting a block fit together
(`Block.locate_spliceText`).
-/

namespace SchemaCanvas.Block

/-! ## Openings -/

/-- What follows an opening may go on. -/
theorem opening?_append {cs opening rest : List Char} (h : opening? cs = some (opening, rest))
    (hne : rest ≠ []) (more : List Char) :
    opening? (cs ++ more) = some (opening, rest ++ more) := by
  obtain ⟨blanks, hblanks, hopening, hcs, hword⟩ := opening?_eq_some_iff.1 h
  refine opening?_eq_some_iff.2 ⟨blanks, hblanks, hopening, by rw [hcs, List.append_assoc], ?_⟩
  rwa [List.head?_append_of_ne_nil _ hne]

/-- Whether a block opens does not depend on the comment behind the text: a slash is neither a blank
nor a word character, and stands in no opening but at its start. -/
theorem opening?_slash {cs r r' : List Char} (hne : cs ≠ [])
    (h : opening? (cs ++ '/' :: r) = none) : opening? (cs ++ '/' :: r') = none := by
  cases hr : opening? (cs ++ '/' :: r') with
  | none => rfl
  | some found =>
    obtain ⟨opening, rest⟩ := found
    obtain ⟨blanks, hblanks, hopening, hcs, hword⟩ := opening?_eq_some_iff.1 hr
    have hslash : '/' ∉ '*' :: (blanks ++ marker) := by
      simp only [List.mem_cons, List.mem_append, not_or]
      exact ⟨by decide, fun hm => absurd (hblanks _ hm) (by decide), by decide⟩
    have hwithin : ∀ between, cs = opening ++ between → rest = between ++ '/' :: r' → False := by
      rintro between rfl rfl
      have hopens : opening? (opening ++ between ++ '/' :: r)
          = some (opening, between ++ '/' :: r) := by
        refine opening?_eq_some_iff.2 ⟨blanks, hblanks, hopening, by simp, ?_⟩
        cases between with
        | nil =>
          rw [List.nil_append, List.head?_cons]
          decide +kernel
        | cons c between => exact hword
      rw [hopens] at h
      cases h
    rcases List.append_eq_append_iff.1 hcs with ⟨tail, htail, hrest⟩ | ⟨between, hcs, hrest⟩
    · cases tail with
      | nil => exact (hwithin [] (by simpa using htail.symm) hrest.symm).elim
      | cons c tail =>
        obtain ⟨rfl, -⟩ := List.cons.inj hrest
        obtain ⟨d, cs, rfl⟩ := List.exists_cons_of_ne_nil hne
        rw [hopening, List.cons_append] at htail
        refine absurd ?_ hslash
        rw [(List.cons.inj htail).2]
        exact List.mem_append_right _ List.mem_cons_self
    · exact (hwithin between hcs hrest).elim

/-! ## Texts that open no block -/

/-- Whether no block opens in the text, also when the first block starts right behind it. -/
def Unopened (before : List Char) : Prop :=
  ∀ {r opening rest}, opening? ('/' :: r) = some (opening, rest) →
    findOpening (before ++ '/' :: r) = some (before, opening, rest)

/-- No block opens in the empty text. -/
theorem unopened_nil : Unopened [] := by
  intro r opening rest h
  rw [List.nil_append, findOpening, h]

/-- No block opens before the first one. -/
theorem unopened_of_findOpening {before opening rest r : List Char}
    (h : findOpening (before ++ '/' :: r) = some (before, opening, rest)) : Unopened before := by
  induction before with
  | nil => exact unopened_nil
  | cons c before ih =>
    intro r' opening' rest' h'
    rcases findOpening_cons_eq_some.1 h with ⟨hnil, -⟩ | ⟨between, hbefore, hnone, hfound⟩
    · cases hnil
    · obtain rfl := (List.cons.inj hbefore).2
      have hnone' : opening? (c :: before ++ '/' :: r') = none :=
        opening?_slash (List.cons_ne_nil c before) hnone
      exact findOpening_cons_eq_some.2 (.inr ⟨before, rfl, hnone', ih hfound h'⟩)

/-! ## Around the block of a text -/

/-- What stands before and after the block of a text; in a text without a block, what stands around
the one that is put before everything else. -/
def around (cs : List Char) : List Char × List Char :=
  match locate cs with
  | some l => (l.before, l.after)
  | none => ([], '\n' :: '\n' :: cs)

/-- What stands around the block of a text is what stands before and after it. -/
theorem around_of_locate {cs : List Char} {l : Located} (h : locate cs = some l) :
    around cs = (l.before, l.after) := by
  rw [around, h]

/-- Putting a block into a text keeps what stands around the block that it replaces. -/
theorem splice_eq (cs block : List Char) :
    splice cs block = (around cs).1 ++ block ++ (around cs).2 := by
  rw [splice, around]
  cases locate cs with
  | none => simp
  | some l => rfl

/-- A block is found exactly if a block opens and the first closing mark behind the opening is where
it ends. -/
theorem locate_eq_some_iff {cs : List Char} {l : Located} :
    locate cs = some l ↔ ∃ rest, findOpening cs = some (l.before, l.opening, rest) ∧
      Text.findMark commentClose rest = some (l.content, l.after) := by
  obtain ⟨before, opening, content, after⟩ := l
  simp only [locate, bind, Option.bind_eq_some_iff, pure, Option.some.injEq, Located.mk.injEq]
  constructor
  · rintro ⟨⟨_, _, rest⟩, hf, ⟨_, _⟩, hm, rfl, rfl, rfl, rfl⟩
    exact ⟨rest, hf, hm⟩
  · rintro ⟨rest, hf, hm⟩
    exact ⟨_, hf, _, hm, rfl, rfl, rfl, rfl⟩

/-- No block opens in what stands before the block of a text. -/
theorem unopened_around (cs : List Char) : Unopened (around cs).1 := by
  cases hl : locate cs with
  | none =>
    rw [around, hl]
    exact unopened_nil
  | some l =>
    rw [around_of_locate hl]
    obtain ⟨rest, hfound, -⟩ := locate_eq_some_iff.1 hl
    obtain ⟨blanks, hopening, -⟩ := findOpening_shape hfound
    have hcs := findOpening_eq_some hfound
    rw [hopening, List.append_assoc, List.cons_append] at hcs
    exact @unopened_of_findOpening _ _ _ _ (hcs ▸ hfound)

/-! ## Whole blocks -/

/-- Whether the characters are one block and nothing else. -/
def Whole (block : List Char) : Prop :=
  ∃ opening content, locate block = some ⟨[], opening, content, []⟩

/-- A text that is one block is that block wherever it stands. -/
theorem block_of_locate {block opening content before after : List Char}
    (h : locate block = some ⟨[], opening, content, []⟩) :
    Located.block ⟨before, opening, content, after⟩ = block := by
  have htext := text_locate h
  rwa [Located.text, List.nil_append, List.append_nil] at htext

/-- A whole block is found where it has been put. -/
theorem locate_splice {block opening content : List Char}
    (h : locate block = some ⟨[], opening, content, []⟩) (cs : List Char) :
    locate (splice cs block) = some ⟨(around cs).1, opening, content, (around cs).2⟩ := by
  obtain ⟨rest, hfound, hmark⟩ := locate_eq_some_iff.1 h
  dsimp only at hfound hmark
  have hne : rest ≠ [] := by
    rintro rfl
    cases hmark
  obtain ⟨blanks, hopening, -⟩ := findOpening_shape hfound
  have hblock : block = opening ++ rest := findOpening_eq_some hfound
  have hopens : opening? block = some (opening, rest) := hblock ▸ opening?_of_findOpening hfound
  rw [splice_eq, List.append_assoc]
  refine locate_eq_some_iff.2 ⟨rest ++ (around cs).2, ?_, ?_⟩
  · have hopens' := opening?_append hopens hne (around cs).2
    rw [hblock, hopening, List.cons_append, List.cons_append] at hopens' ⊢
    exact unopened_around cs hopens'
  · have hmark' : Text.findMark commentClose (rest ++ []) = some (content, [] ++ []) := by
      rwa [List.append_nil]
    exact Text.findMark_tail (by decide) hmark' _

/-- A splice leaves what stands around the block. -/
theorem around_splice {block : List Char} (h : Whole block) (cs : List Char) :
    around (splice cs block) = around cs := by
  obtain ⟨opening, content, hblock⟩ := h
  rw [around_of_locate (locate_splice hblock cs)]

/-- A second splice puts its block in the place of the first one. -/
theorem splice_splice {block : List Char} (h : Whole block) (cs block' : List Char) :
    splice (splice cs block) block' = splice cs block' := by
  rw [splice_eq, around_splice h, ← splice_eq]

/-- The last of two blocks that are put into a text is the one that stays. -/
theorem spliceText_spliceText {block : String} (h : Whole block.toList) (text block' : String) :
    spliceText (spliceText text block) block' = spliceText text block' := by
  simp only [spliceText, String.toList_ofList, splice_splice h]

/-- A written block is a whole one when no name in it holds a closing mark. -/
theorem whole_of_write {strict : Bool} {D : DiagramSet} {block : String}
    (h : write strict D = .ok block) (hd : ∀ d ∈ D.values, d.Avoids commentClose) :
    Whole block.toList := by
  obtain ⟨parts, -, hlocate⟩ := locate_of_write h hd
  have hwhole := hlocate []
  rw [List.append_nil] at hwhole
  exact ⟨_, _, hwhole⟩

/-- A comment in the place of a block that is a comment itself leaves the schema. -/
theorem schema_spliceText {text block : String} (h : Sql.Lexeme.IsComment block.toList)
    (hc : ∀ l, locate text.toList = some l → Commented text.toList l) :
    (Schema.ofText (spliceText text block)).1 = (Schema.ofText text).1 := by
  have hcontents : (Sql.Script.ofText (spliceText text block)).tokens.map Sql.Token.content
      = (Sql.Script.ofText text).tokens.map Sql.Token.content := by
    rw [Sql.Script.contents_ofText, Sql.Script.contents_ofText, spliceText, String.toList_ofList]
    exact contents_splice h hc
  exact (Schema.ofTokens_of_contents hcontents).1

/-! ## Finding a block and putting one in its place -/

/-- Characters that their own first block spans from end to end are a whole block. -/
theorem eq_of_span {block : List Char} {l : Located} (h : locate block = some l)
    (hstart : l.start = 0) (hstop : l.stop = block.length) :
    l = ⟨[], l.opening, l.content, []⟩ := by
  obtain ⟨before, opening, content, after⟩ := l
  obtain rfl : before = [] := List.length_eq_zero_iff.1 hstart
  have htext := congrArg List.length (text_locate h)
  rw [← hstop] at htext
  simp only [Located.text, Located.stop, List.length_append] at htext
  obtain rfl : after = [] := List.length_eq_zero_iff.1 (by omega)
  rfl

/-- A text's own block in the place of its block is the text. -/
theorem splice_block {cs : List Char} {l : Located} (h : locate cs = some l) :
    splice cs l.block = cs := by
  rw [splice, h]
  exact text_locate h

/-- Finding the block of a text and putting a whole block in its place fit together. What has been
put is found, where the text's block stood or at the start, and the rest of the text stands around
it. What has been put last counts, and what has been found may be put back. -/
theorem locate_spliceText {block : String} {found : Located}
    (h : locate block.toList = some found) (hstart : found.start = 0)
    (hstop : found.stop = block.toList.length) (text : String) :
    (∃ l, locate (spliceText text block).toList = some l ∧
      l.block = block.toList ∧ l.content = found.content ∧
      l.start = ((locate text.toList).map Located.start).getD 0 ∧
      (∀ old, locate text.toList = some old → l.before = old.before ∧ l.after = old.after) ∧
      (locate text.toList = none → l.before = [] ∧ l.after = '\n' :: '\n' :: text.toList)) ∧
    (∀ block', spliceText (spliceText text block) block' = spliceText text block') ∧
    ∀ old, locate text.toList = some old → spliceText text (String.ofList old.block) = text := by
  have hfound : locate block.toList = some ⟨[], found.opening, found.content, []⟩ :=
    h.trans (congrArg some (eq_of_span h hstart hstop))
  refine ⟨⟨⟨(around text.toList).1, found.opening, found.content, (around text.toList).2⟩,
    ?_, block_of_locate hfound, rfl, ?_, ?_, ?_⟩, ?_, ?_⟩
  · rw [spliceText, String.toList_ofList]
    exact locate_splice hfound text.toList
  · rw [Located.start, around]
    cases locate text.toList <;> rfl
  · intro old hold
    rw [around_of_locate hold]
    exact ⟨rfl, rfl⟩
  · intro hnone
    rw [around, hnone]
    exact ⟨rfl, rfl⟩
  · intro block'
    exact spliceText_spliceText ⟨_, _, hfound⟩ text block'
  · intro old hold
    rw [spliceText, String.toList_ofList, splice_block hold, String.ofList_toList]

/-! A text that has a marker that a letter follows, its block between the marks of other comments,
and a marker after it that nothing closes. -/

/-- The text. -/
def crowdedText : String :=
  "/*@erd-petsy/*/ @erd-pets*//* @erd-pets [old]*/*/\n/*@erd-pets"

/-- A block to put into it. -/
def crowdedBlock : String :=
  "/*\t@erd-pets\n[new]/* */"

/-- The block is found where it was put, another one replaces it, and the text comes back with its
own block. -/
theorem locate_crowdedText :
    (∃ l, locate (spliceText crowdedText crowdedBlock).toList = some l ∧ l.start = 27 ∧
      l.block = crowdedBlock.toList) ∧
    spliceText (spliceText crowdedText crowdedBlock) "/*@erd-pets*/"
      = spliceText crowdedText "/*@erd-pets*/" ∧
    spliceText crowdedText "/* @erd-pets [old]*/" = crowdedText := by
  have hfound : locate crowdedBlock.toList
      = some ⟨[], "/*\t@erd-pets".toList, "\n[new]/* ".toList, []⟩ := by decide +kernel
  have hold : locate crowdedText.toList = some ⟨"/*@erd-petsy/*/ @erd-pets*/".toList,
      "/* @erd-pets".toList, " [old]".toList, "*/\n/*@erd-pets".toList⟩ := by decide +kernel
  obtain ⟨⟨l, hl, hblock, -, hstart, -, -⟩, hagain, hback⟩ :=
    locate_spliceText hfound (by decide +kernel) (by decide +kernel) crowdedText
  rw [hold] at hstart
  refine ⟨⟨l, hl, hstart.trans (by decide +kernel), hblock⟩, hagain _, ?_⟩
  exact (congrArg (spliceText crowdedText) (by decide +kernel)).trans (hback _ hold)

end SchemaCanvas.Block
