import SchemaCanvas.Proofs.Layout.Located
import SchemaCanvas.Proofs.Sql.Pieces
import SchemaCanvas.Proofs.Text.Segments

/-!
# Where a block hides no token

The block of a text is found by its opening, wherever that stands: in a quoted string too. So a
block need not be a comment of the script, and putting another one in its place may remove tokens.
No token stands in a block just when the script is in a comment where the block starts, one that
goes on to the end of the block (`locate_silent_iff`): a block comment that ends with the block, or
a line comment after which no token comes before the end of the block.
-/

namespace SchemaCanvas.Block

open SchemaCanvas.Sql (Lexeme)
open SchemaCanvas.Sql.Lexeme (StandsAt)

variable {cs : List Char} {l : Located}

/-- No token stands between two offsets of a script, not even in part. -/
def Silent (cs : List Char) (start stop : Nat) : Prop :=
  ∀ m offset, StandsAt cs m offset → m.IsToken → m.stop offset ≤ start ∨ stop ≤ offset

/-- The script is in a comment where the block starts: in a block comment that ends with the block,
or in a line comment after which no token comes before the end of the block. -/
def Hidden (cs : List Char) (l : Located) : Prop :=
  ∃ m offset, StandsAt cs m offset ∧ offset ≤ l.start ∧ l.start < m.stop offset ∧
    (m.form = .blockComment ∧ m.stop offset = l.stop ∨
      m.form = .lineComment ∧ Silent cs (m.stop offset) l.stop)

/-- A text with a block is what stands before the block, the block, and what stands after it. -/
theorem eq_of_locate (h : locate cs = some l) : cs = l.before ++ (l.block ++ l.after) := by
  rw [← text_locate h, Located.text, List.append_assoc]

/-! ## Hidden blocks are silent -/

/-- The comment that hides a block has no token, and none comes after it before the end of the
block. -/
theorem Hidden.silent (h : Hidden cs l) : Silent cs l.start l.stop := by
  obtain ⟨m, offset, hm, hstart, hstop, hform⟩ := h
  intro m' offset' hm' htoken
  rcases hm.apart hm' with hbefore | ⟨rfl, rfl⟩ | hafter
  · exact .inl (Nat.le_trans hbefore hstart)
  · rcases hform with ⟨hform, -⟩ | ⟨hform, -⟩ <;>
      simp [Lexeme.IsToken, Lexeme.meaning?, hform] at htoken
  · rcases hform with ⟨-, hend⟩ | ⟨-, hsilent⟩
    · exact .inr (hend ▸ hafter)
    · have := hm'.lt_stop
      have := hsilent m' offset' hm' htoken
      omega

/-! ## Silent blocks are hidden -/

/-- Of two ways to cut a text the one that cuts further on goes on from the other. -/
theorem exists_append {u rest a v : List Char} (h : u ++ rest = a ++ v)
    (hle : u.length ≤ a.length) : ∃ p, a = u ++ p ∧ rest = p ++ v := by
  have hprefix : u <+: a ++ v := ⟨rest, h⟩
  obtain ⟨p, rfl⟩ := List.prefix_of_prefix_length_le hprefix ⟨v, rfl⟩ hle
  rw [List.append_assoc] at h
  exact ⟨p, rfl, List.append_cancel_left h⟩

/-- What starts before a block goes on with the text before it and the block. -/
theorem exists_before (h : locate cs = some l) {u rest : List Char} (hcs : cs = u ++ rest)
    (hu : u.length ≤ l.start) :
    ∃ p, l.before = u ++ p ∧ rest = p ++ (l.block ++ l.after) :=
  exists_append (hcs ▸ eq_of_locate h) hu

/-- A block ends as many characters behind its start as it has. -/
theorem Located.stop_eq (l : Located) : l.stop = l.start + l.block.length := rfl

/-- A star is an operator, whatever follows it. -/
theorem isToken_star (w : List Char) : (Lexeme.next '*' w).1.IsToken := by
  have hother : Text.isBlank '*' = false ∧ Text.isDigit '*' = false ∧ Sql.isWordStart '*' = false ∧
      '*' ∉ Sql.punctuationMarks ∧ '*' ∈ Sql.singleOperators := by decide
  have hpair : ∀ d, ('*', d) ∉ Sql.pairedOperators := by simp [Sql.pairedOperators]
  cases w <;> simp [Lexeme.next, Lexeme.symbol, Lexeme.IsToken, Lexeme.meaning?, hother, hpair]

/-- The closing mark that is found from before a block on, past `q`, is the one of the block, or it
is complete with the first character of the block at the latest, before the star of the opening
mark. -/
theorem findMark_before (h : locate cs = some l) (q : List Char) :
    (∃ inside, Text.findMark commentClose (q ++ (l.block ++ l.after)) = some (inside, l.after) ∧
      inside.length + 2 = q.length + l.block.length) ∨
    ∃ inside rest w, Text.findMark commentClose (q ++ (l.block ++ l.after))
        = some (inside, rest ++ '*' :: w) ∧ inside.length + 2 + rest.length = q.length + 1 := by
  obtain ⟨content, hblock, hclose⟩ := exists_inside h
  cases hf : Text.findMark commentClose (q ++ ['/']) with
  | none =>
    have hq := (Text.findMark_eq_none (by decide)).1 hf
    have hmarks : q ++ '/' :: '*' :: content ++ commentClose.dropLast
        = (q ++ ['/']) ++ '*' :: (content ++ ['*']) := by simp [commentClose]
    refine .inl ⟨q ++ '/' :: '*' :: content, (Text.findMark_eq_some_iff (by decide)).2 ⟨?_, ?_⟩, ?_⟩
    · simp [hblock]
    · rw [hmarks]
      exact fun hi => (Text.pair_infix_append_cons (by decide) hi).elim hq hclose
    · simp [hblock, commentClose]
      omega
  | some cut =>
    obtain ⟨inside, rest⟩ := cut
    have hcut := congrArg List.length (Text.findMark_eq_some hf)
    have htail : q ++ (l.block ++ l.after)
        = q ++ ['/'] ++ ('*' :: (content ++ commentClose) ++ l.after) := by simp [hblock]
    refine .inr ⟨inside, rest, content ++ commentClose ++ l.after, ?_, ?_⟩
    · rw [htail]
      exact Text.findMark_tail (v := rest) (w := []) (by decide) (by simpa using hf) _
    · simp [commentClose] at hcut
      omega

/-- A comment that starts `p` before a block ends with the block, or in `p` and the first character
of the block: then the star of the block's opening mark comes after it. -/
theorem upTo_before (h : locate cs = some l) {p inside : List Char}
    (hp : '/' :: '*' :: inside = p ++ (l.block ++ l.after)) :
    (Lexeme.upTo .blockComment ['/', '*'] ['*', '/'] inside).1.text.length
        = p.length + l.block.length ∨
    ∃ rest w, (Lexeme.upTo .blockComment ['/', '*'] ['*', '/'] inside).2 = rest ++ '*' :: w ∧
      (Lexeme.upTo .blockComment ['/', '*'] ['*', '/'] inside).1.text.length + rest.length
        = p.length + 1 := by
  rw [Lexeme.upTo, show ['*', '/'] = commentClose from rfl]
  obtain ⟨content, hblock, hclose⟩ := exists_inside h
  rcases p with _ | ⟨c, _ | ⟨d, q⟩⟩
  · have hmark : Text.findMark commentClose inside = some (content, l.after) :=
      (Text.findMark_eq_some_iff (by decide)).2 ⟨by simpa [hblock] using hp,
        fun hi => hclose (hi.trans (List.suffix_cons ..).isInfix)⟩
    rw [hmark, hblock]
    exact .inl (by simp)
  · simp [hblock] at hp
  · obtain rfl : inside = q ++ (l.block ++ l.after) := (List.cons.inj (List.cons.inj hp).2).2
    rcases findMark_before h q with ⟨content, hmark, hlength⟩ | ⟨content, rest, w, hmark, hlength⟩
    · rw [hmark]
      refine .inl ?_
      simp [commentClose]
      omega
    · rw [hmark]
      refine .inr ⟨rest, w, rfl, ?_⟩
      simp [commentClose]
      omega

/-- A block comment that covers the start of a silent block ends with the block. If it ended in the
middle of the mark that opens the block, then the star of the mark would be a token. -/
theorem Silent.stop_eq (hs : Silent cs l.start l.stop) (h : locate cs = some l) {m : Lexeme}
    {offset : Nat} (hm : StandsAt cs m offset) (hstart : offset ≤ l.start)
    (hstop : l.start < m.stop offset) (hform : m.form = .blockComment) :
    m.stop offset = l.stop := by
  obtain ⟨u, c, w, hcs, rfl, rfl, hnext⟩ := hm.exists_next
  obtain ⟨p, hp, hrest⟩ := exists_before h hcs hstart
  have hlength : l.start = u.length + p.length := by rw [Located.start, hp, List.length_append]
  have hsilence := Lexeme.silence_next (c := c) (w := w)
    (by simp [Lexeme.IsToken, Lexeme.meaning?, hform])
  generalize Lexeme.next c w = r at hsilence hform hstop hnext ⊢
  cases hsilence with
  | blank | lineComment | stray => cases hform
  | blockComment hc hw =>
    subst hc hw
    rcases upTo_before h hrest with hend | ⟨rest, v, hafter, hend⟩
    · rw [Lexeme.stop, hend, Located.stop_eq, hlength, Nat.add_assoc]
    · rw [Lexeme.stop] at hstop
      obtain rfl : rest = [] := List.length_eq_zero_iff.1 (by omega)
      have hstar := hnext '*' v hafter
      have hlater := hstar.lt_stop
      have hlong : 4 ≤ l.block.length := by
        obtain ⟨content, hblock, -⟩ := exists_inside h
        simp [hblock, commentClose]
      have hapart := hs _ _ hstar (isToken_star v)
      simp only [Lexeme.stop, Located.stop_eq, List.length_nil] at hend hlater hapart
      omega

/-- A piece that covers the start of a block has the slash of its opening mark. -/
theorem slash_mem (h : locate cs = some l) {u text rest : List Char}
    (hcs : cs = u ++ (text ++ rest))
    (hu : u.length ≤ l.start) (hstop : l.start < u.length + text.length) : '/' ∈ text := by
  obtain ⟨p, hp, hrest⟩ := exists_before h hcs hu
  obtain ⟨inside, hblock, -⟩ := exists_inside h
  rw [Located.start, hp, List.length_append] at hstop
  rcases List.append_eq_append_iff.1 hrest with ⟨a, rfl, -⟩ | ⟨a, rfl, ha⟩
  · rw [List.length_append] at hstop
    omega
  · cases a with
    | nil => simp at hstop
    | cons d a =>
      rw [hblock] at ha
      rw [(List.cons.inj ha).1]
      simp

/-- The script is in a comment where a silent block starts. -/
theorem Silent.hidden (hs : Silent cs l.start l.stop) (h : locate cs = some l) : Hidden cs l := by
  have hlong : l.start < l.stop := by
    obtain ⟨inside, hblock, -⟩ := exists_inside h
    simp [Located.stop_eq, hblock]
  have hlength : l.start < cs.length := by
    rw [eq_of_locate h, List.length_append, List.length_append]
    rw [Located.stop_eq] at hlong
    rw [Located.start] at hlong ⊢
    omega
  obtain ⟨m, offset, hm, hstart, hstop⟩ := Lexeme.exists_covers hlength
  have htoken : ¬ m.IsToken := fun ht => by
    have := hs m offset hm ht
    omega
  obtain ⟨u, c, w, hcs, rfl, rfl, -⟩ := hm.exists_next
  have hslash : '/' ∈ (Lexeme.next c w).1.text := by
    rw [← Lexeme.text_next_append] at hcs
    exact slash_mem h hcs hstart hstop
  refine ⟨_, _, hm, hstart, hstop, ?_⟩
  have hsilence := Lexeme.silence_next htoken
  have hcomment := hs.stop_eq h hm hstart hstop
  generalize Lexeme.next c w = r at hsilence hslash hstop hcomment ⊢
  cases hsilence with
  | blank hb =>
    rcases List.mem_cons.1 hslash with rfl | hmem
    · exact absurd hb (by decide)
    · exact absurd (List.all_eq_true.1 List.all_takeWhile _ hmem) (by decide)
  | lineComment =>
    exact .inr ⟨rfl, fun m' offset' hm' ht =>
      (hs m' offset' hm' ht).imp_left fun hle => Nat.le_trans hle (Nat.le_of_lt hstop)⟩
  | blockComment =>
    exact .inl ⟨Lexeme.form_upTo .., hcomment (Lexeme.form_upTo ..)⟩
  | stray hopens =>
    -- A stray character is the slash itself, but a star follows that one.
    obtain ⟨p, hp, hrest⟩ := exists_before h hcs hstart
    obtain ⟨inside, hblock, -⟩ := exists_inside h
    rw [Located.start, hp, List.length_append] at hstop
    obtain rfl : p = [] := by simpa [Lexeme.stop] using hstop
    rw [hblock] at hrest
    obtain ⟨rfl, rfl⟩ := List.cons.inj hrest
    exact absurd ⟨rfl, rfl⟩ hopens

/-! ## Blocks and tokens -/

/-- A token that stands before or after a silent block stands in the text with another block too: at
its place, or as much further on as the other block is longer. -/
theorem Silent.splice_eq (hs : Silent cs l.start l.stop) (h : locate cs = some l)
    (block : List Char) {m : Lexeme} {offset : Nat} (hm : StandsAt cs m offset)
    (htoken : m.IsToken) :
    ∃ u v, splice cs block = u ++ m.text ++ v ∧
      u.length = if offset < l.start then offset else offset - l.block.length + block.length := by
  have hsplice : splice cs block = l.before ++ block ++ l.after := by rw [splice, h]
  have hlt := hm.lt_stop
  obtain ⟨u, v, hcs, rfl⟩ := hm.exists_around
  rcases hs m u.length hm htoken with hbefore | hafter
  · rw [← List.append_assoc] at hcs
    obtain ⟨p, hp, -⟩ := exists_before h hcs (by rwa [List.length_append])
    refine ⟨u, p ++ block ++ l.after, by simp [hsplice, hp], ?_⟩
    rw [if_pos (Nat.lt_of_lt_of_le hlt hbefore)]
  · have htext : l.before ++ l.block ++ l.after = u ++ (m.text ++ v) := by
      rw [← hcs, List.append_assoc]
      exact (eq_of_locate h).symm
    obtain ⟨p, rfl, hp⟩ := exists_append htext (by rwa [List.length_append])
    refine ⟨l.before ++ block ++ p, v, by simp [hsplice, hp], ?_⟩
    rw [if_neg (by simp [Located.start])]
    simp
    omega

/-- **Where the block and the comments of a script agree.** No token of a script stands in its
block, not even in part, just when the script is in a comment where the block starts, and that
comment goes on to the end of the block: a block comment ends there, and after a line comment no
token comes before it. Then putting another block in the place of the old one leaves every token
where it was, or moves it by as much as the other block is longer. -/
theorem locate_silent_iff (h : locate cs = some l) :
    (Silent cs l.start l.stop ↔ Hidden cs l) ∧
    (Silent cs l.start l.stop → ∀ (block : List Char) (m : Lexeme) (offset : Nat),
      StandsAt cs m offset → m.IsToken →
      ∃ u v, splice cs block = u ++ m.text ++ v ∧
        u.length = if offset < l.start then offset else offset - l.block.length + block.length) :=
  ⟨⟨fun hs => hs.hidden h, Hidden.silent⟩, fun hs block _ _ hm ht => hs.splice_eq h block hm ht⟩

/-- A script with a block in a comment that starts before it. -/
def commentedBlock : List Char :=
  "SELECT /* see /* @erd-pets */ 1;".toList

/-- The comment hides the block. -/
theorem commentedBlock_hidden :
    ∃ l, locate commentedBlock = some l ∧ Silent commentedBlock l.start l.stop ∧
      ∀ (block : List Char) (m : Lexeme) (offset : Nat), StandsAt commentedBlock m offset →
        m.IsToken →
        ∃ u v, splice commentedBlock block = u ++ m.text ++ v ∧
          u.length
            = if offset < l.start then offset else offset - l.block.length + block.length := by
  have hl : locate commentedBlock
      = some ⟨"SELECT /* see ".toList, "/* @erd-pets".toList, [' '], " 1;".toList⟩ := by
    decide +kernel
  have hscan : Lexeme.scan commentedBlock
      = [⟨.word, "SELECT".toList⟩, ⟨.blank, [' ']⟩] ++
        ⟨.blockComment, "/* see /* @erd-pets */".toList⟩ ::
          [⟨.blank, [' ']⟩, ⟨.number, ['1']⟩, ⟨.punctuation, [';']⟩] := by
    decide +kernel
  obtain ⟨hiff, hsplice⟩ := locate_silent_iff hl
  have hsilent := hiff.2
    ⟨_, _, ⟨_, _, hscan, rfl⟩, by decide, by decide, .inl ⟨rfl, by decide⟩⟩
  exact ⟨_, hl, hsilent, hsplice hsilent⟩

/-- A script with a block in a quoted string. -/
def quotedBlock : List Char :=
  "SELECT '/* @erd-pets */';".toList

/-- The quoted string is a token that the block stands in. -/
theorem quotedBlock_not_silent :
    ∃ l, locate quotedBlock = some l ∧ ¬ Silent quotedBlock l.start l.stop := by
  have hl : locate quotedBlock
      = some ⟨"SELECT '".toList, "/* @erd-pets".toList, [' '], "';".toList⟩ := by
    decide +kernel
  have hscan : Lexeme.scan quotedBlock
      = [⟨.word, "SELECT".toList⟩, ⟨.blank, [' ']⟩] ++
        ⟨.quotedString, "'/* @erd-pets */'".toList⟩ :: [⟨.punctuation, [';']⟩] := by
    decide +kernel
  refine ⟨_, hl, fun hs => ?_⟩
  have hapart := hs _ _ ⟨_, _, hscan, rfl⟩ rfl
  revert hapart
  decide

end SchemaCanvas.Block
